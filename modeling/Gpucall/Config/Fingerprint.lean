import Gpucall.Lib.FileTree
import Gpucall.Text

/-! The three hashes of a configuration directory: `route_validation_config_hash`, which the smoke
command records in its artifacts and the router checks, the `_config_hash` of `tuple_promotion.py` and the
`_file_config_hash` of `execution_catalog.py`. They run over the same files in the same order, but do not
leave out the same ones, and take an unreadable file differently. -/

namespace Gpucall

/-! ## Configuration directories -/

/-- What is at a path: whether `is_file()` holds of it, and what `read_bytes()` gives unless it raises an
`OSError`. -/
structure ConfigEntry where
  isFile : Bool := true
  bytes : Option (List ℕ)
  deriving DecidableEq

/-- The exception of a file that cannot be read. -/
structure OSError

/-- What is below a configuration directory. -/
abbrev ConfigTree := FileTree ConfigEntry

/-- Whether `*.yml` matches the name at the end of a path. -/
def isYml (path : List String) : Bool := path.getLast?.any (endswith · ".yml")

/-- `path.as_posix()` of a relative path -/
def asPosix (path : List String) : String := joinStr "/" path

/-- `ROUTE_VALIDATION_HASH_EXCLUDED_PREFIXES` -/
def routeValidationHashExcludedPrefixes : List String := ["tenants/"]

/-- `ROUTE_VALIDATION_HASH_EXCLUDED_PATHS` -/
def routeValidationHashExcludedPaths : List String := ["credentials.yml"]

/-- `_route_validation_hash_excluded` -/
def routeValidationHashExcluded (relativePath : String) : Bool :=
  relativePath ∈ routeValidationHashExcludedPaths ||
    routeValidationHashExcludedPrefixes.any (startswith relativePath)

/-! ## The hashes -/

/-- The loop of all three: what the digest is updated with, if every file that is not skipped can be
read. -/
def digestBytes (skip : List String × ConfigEntry → Bool) :
    List (List String × ConfigEntry) → Option (List ℕ)
  | [] => some []
  | (path, entry) :: rest =>
    if skip (path, entry) then digestBytes skip rest
    else
      match entry.bytes with
      | none => none
      | some bytes =>
        (digestBytes skip rest).map (FileTree.block (utf8 ∘ asPosix) 0 (path, bytes) ++ ·)

variable (sha256 : List ℕ → String)

/-- `route_validation_config_hash`; an `OSError` is caught. -/
def routeValidationConfigHash : Option ConfigTree → Option String
  | none => none
  | some tree =>
    (digestBytes (fun entry => !entry.2.isFile || routeValidationHashExcluded (asPosix entry.1))
      (tree.listing isYml)).map sha256

/-- `_config_hash` of `tuple_promotion.py`; an `OSError` is not caught. -/
def promotionConfigHash : Option ConfigTree → Except OSError (Option String)
  | none => .ok none
  | some tree =>
    match digestBytes (fun entry => !entry.2.isFile) (tree.listing isYml) with
    | none => .error {}
    | some bytes => .ok (some (sha256 bytes))

/-- `_file_config_hash` of `execution_catalog.py`; an `OSError` is not caught. -/
def fileConfigHash (tree : Option ConfigTree) : Except OSError String :=
  match digestBytes (fun _ => false) (tree.elim [] (·.listing isYml)) with
  | none => .error {}
  | some bytes => .ok (sha256 bytes)

/-- The three return one digest of the directory. -/
def SameDigest (tree : ConfigTree) : Prop :=
  ∃ digest, routeValidationConfigHash sha256 (some tree) = some digest ∧
    promotionConfigHash sha256 (some tree) = .ok (some digest) ∧
    fileConfigHash sha256 (some tree) = .ok digest

/-- Whatever `*.yml` matches is a file that can be read and that the router does not leave out. -/
def ConfigTree.Plain (tree : ConfigTree) : Prop :=
  ∀ path entry, isYml path = true → tree.lookup path = some entry →
    entry.isFile = true ∧ entry.bytes.isSome = true ∧ routeValidationHashExcluded (asPosix path) = false

/-! ## What the loop reads -/

variable {sha256} {skip : List String × ConfigEntry → Bool}
  {entries : List (List String × ConfigEntry)} {bytes : List ℕ} {tree : ConfigTree}

/-- The files of a listing that can be read. -/
def readFiles (entries : List (List String × ConfigEntry)) : List (List String × List ℕ) :=
  entries.filterMap fun entry => entry.2.bytes.map (entry.1, ·)

theorem mem_readFiles {path : List String} {contents : List ℕ} :
    (path, contents) ∈ readFiles entries ↔
      ∃ entry, (path, entry) ∈ entries ∧ entry.bytes = some contents := by
  simp only [readFiles, List.mem_filterMap, Option.map_eq_some_iff, Prod.mk.injEq, Prod.exists]
  constructor
  · rintro ⟨_, entry, hmem, _, hbytes, rfl, rfl⟩
    exact ⟨entry, hmem, hbytes⟩
  · rintro ⟨entry, hmem, hbytes⟩
    exact ⟨path, entry, hmem, contents, hbytes, rfl, rfl⟩

theorem digestBytes_eq_some : digestBytes skip entries = some bytes ↔
    (∀ entry ∈ entries, skip entry = false → entry.2.bytes.isSome = true) ∧
      FileTree.stream (utf8 ∘ asPosix) 0 (readFiles (entries.filter (!skip ·))) = bytes := by
  induction entries generalizing bytes with
  | nil => simp [digestBytes, FileTree.stream, readFiles]
  | cons entry entries ih =>
    obtain ⟨path, entry⟩ := entry
    simp only [digestBytes, List.forall_mem_cons]
    by_cases hskip : skip (path, entry) = true
    · simp only [hskip, if_true, ih]
      simp [hskip]
    · rw [if_neg hskip, List.filter_cons_of_pos (by simpa using hskip)]
      cases hbytes : entry.bytes with
      | none => simp [hskip]
      | some contents =>
        have hread : readFiles ((path, entry) :: entries.filter (!skip ·)) =
            (path, contents) :: readFiles (entries.filter (!skip ·)) :=
          List.filterMap_cons_some (by simp [hbytes])
        simp only [Option.map_eq_some_iff, ih, hread, FileTree.stream_cons, Option.isSome_some,
          implies_true, true_and]
        constructor
        · rintro ⟨_, ⟨hall, rfl⟩, rfl⟩
          exact ⟨hall, rfl⟩
        · rintro ⟨hall, rfl⟩
          exact ⟨_, ⟨hall, rfl⟩, rfl⟩

theorem length_readFiles (h : ∀ entry ∈ entries, entry.2.bytes.isSome = true) :
    (readFiles entries).length = entries.length := by
  induction entries with
  | nil => rfl
  | cons entry entries ih =>
    obtain ⟨contents, hcontents⟩ := Option.isSome_iff_exists.mp (h entry List.mem_cons_self)
    have hrest := ih fun e he => h e (List.mem_cons_of_mem _ he)
    rw [readFiles, List.filterMap_cons_some (b := (entry.1, contents)) (by rw [hcontents]; rfl),
      List.length_cons, List.length_cons]
    exact congrArg (· + 1) hrest

/-- If all files can be read, what is skipped is missing from the stream. -/
theorem skip_eq_false_of_digestBytes_eq (hall : digestBytes (fun _ => false) entries = some bytes)
    (hskip : digestBytes skip entries = some bytes) : ∀ entry ∈ entries, skip entry = false := by
  obtain ⟨hread, hbytes⟩ := digestBytes_eq_some.mp hall
  obtain ⟨-, hbytes'⟩ := digestBytes_eq_some.mp hskip
  have hreadable (entry) (hmem : entry ∈ entries) : entry.2.bytes.isSome = true := hread entry hmem rfl
  have hfilter : entries.filter (!(fun _ => false) ·) = entries := by simp
  rw [hfilter] at hbytes
  have hsub : (entries.filter (!skip ·)).Sublist entries := List.filter_sublist
  have heq : readFiles (entries.filter (!skip ·)) = readFiles entries :=
    FileTree.eq_of_sublist_of_stream_eq (hsub.filterMap _) (hbytes'.trans hbytes.symm)
  have hlen := congrArg List.length heq
  rw [length_readFiles hreadable, length_readFiles fun e he => hreadable e (hsub.mem he)] at hlen
  intro entry hmem
  have := List.length_filter_eq_length_iff.mp hlen entry hmem
  simpa using this

theorem digestBytes_of_not_skip (h : ∀ entry ∈ entries, skip entry = false) :
    digestBytes skip entries = digestBytes (fun _ => false) entries := by
  induction entries with
  | nil => rfl
  | cons entry entries ih =>
    obtain ⟨path, entry⟩ := entry
    simp only [digestBytes, h (path, entry) List.mem_cons_self, Bool.false_eq_true, if_false,
      ih fun e he => h e (List.mem_cons_of_mem _ he)]

/-! ## The directory behind a digest -/

/-- What a file system has as the name of a file. -/
def IsFileName (name : String) : Prop := name ≠ "" ∧ '/' ∉ name.toList ∧ '\x00' ∉ name.toList

/-- The paths of the directory consist of file names. -/
def ConfigTree.Named (tree : ConfigTree) : Prop :=
  ∀ path entry, tree.lookup path = some entry → ∀ name ∈ path, IsFileName name

theorem named_insert {names : List String} {entry : ConfigEntry} (hnamed : tree.Named)
    (hnames : ∀ name ∈ names, IsFileName name) : ConfigTree.Named (tree.insert names entry) := by
  intro path found hfound
  by_cases hpath : path = names
  · rw [hpath]
    exact hnames
  · rw [Finmap.lookup_insert_of_ne _ hpath] at hfound
    exact hnamed path found hfound

/-- What `route_validation_config_hash` leaves out. -/
def routeSkip (entry : List String × ConfigEntry) : Bool :=
  !entry.2.isFile || routeValidationHashExcluded (asPosix entry.1)

/-- The paths whose files the router's hash covers. -/
def isHashed (path : List String) : Bool := isYml path && !routeValidationHashExcluded (asPosix path)

/-- The files that the router's hash covers. -/
def hashedFiles (tree : ConfigTree) : List (List String × List ℕ) :=
  readFiles ((tree.listing isYml).filter (!routeSkip ·))

theorem mem_hashedFiles {path : List String} {contents : List ℕ} :
    (path, contents) ∈ hashedFiles tree ↔
      isHashed path = true ∧ tree.lookup path = some { bytes := some contents } := by
  simp only [hashedFiles, mem_readFiles, List.mem_filter, FileTree.mem_listing, routeSkip, isHashed]
  constructor
  · rintro ⟨⟨isFile, bytes⟩, ⟨⟨hyml, hlookup⟩, hskip⟩, rfl⟩
    simp only [Bool.not_eq_true', Bool.or_eq_false_iff, Bool.not_eq_false'] at hskip
    obtain ⟨rfl, hexcluded⟩ := hskip
    exact ⟨by simp [hyml, hexcluded], hlookup⟩
  · rintro ⟨hhashed, hlookup⟩
    simp only [Bool.and_eq_true, Bool.not_eq_true'] at hhashed
    exact ⟨_, ⟨⟨hhashed.1, hlookup⟩, by simp [hhashed.2]⟩, rfl⟩

/-- The texts of the directory are ones that a YAML reader takes: it refuses the character NUL. -/
def ConfigTree.YamlTexts (tree : ConfigTree) : Prop :=
  ∀ path contents, (path, contents) ∈ hashedFiles tree → 0 ∉ contents

theorem routeValidationConfigHash_eq_some {digest : String} :
    routeValidationConfigHash sha256 (some tree) = some digest ↔
      (∀ entry ∈ tree.listing isYml, routeSkip entry = false → entry.2.bytes.isSome = true) ∧
        sha256 (FileTree.stream (utf8 ∘ asPosix) 0 (hashedFiles tree)) = digest := by
  rw [routeValidationConfigHash, Option.map_eq_some_iff]
  constructor
  · rintro ⟨bytes, hbytes, rfl⟩
    obtain ⟨hall, rfl⟩ := digestBytes_eq_some.mp hbytes
    exact ⟨hall, rfl⟩
  · rintro ⟨hall, rfl⟩
    exact ⟨_, digestBytes_eq_some.mpr ⟨hall, rfl⟩, rfl⟩

theorem asPosix_injOn {path path' : List String} (hne : path ≠ []) (hne' : path' ≠ [])
    (h : ∀ name ∈ path, IsFileName name) (h' : ∀ name ∈ path', IsFileName name)
    (heq : asPosix path = asPosix path') : path = path' := by
  have hsplit : ∀ path : List String, path ≠ [] → (∀ name ∈ path, IsFileName name) →
      (asPosix path).toList.splitOn '/' = path.map String.toList := by
    intro path hne h
    rw [asPosix, joinStr, String.toList_intercalate]
    refine List.splitOn_intercalate '/' ?_ (by simpa using hne)
    intro chars hchars
    obtain ⟨name, hname, rfl⟩ := List.mem_map.mp hchars
    exact (h name hname).2.1
  have hmap := (hsplit path hne h).symm.trans ((congrArg (·.toList.splitOn '/') heq).trans
    (hsplit path' hne' h'))
  exact List.map_injective_iff.mpr (fun _ _ => String.toList_inj.mp) hmap

theorem zero_notMem_asPosix {path : List String} (h : ∀ name ∈ path, IsFileName name) :
    0 ∉ utf8 (asPosix path) := by
  apply zero_notMem_utf8
  rw [asPosix, joinStr, String.toList_intercalate]
  induction path with
  | nil => exact List.not_mem_nil
  | cons name path ih =>
    rw [List.forall_mem_cons] at h
    cases path with
    | nil => simpa using h.1.2.2
    | cons name' path =>
      rw [List.map_cons, List.map_cons, List.intercalate_cons_cons]
      simp only [List.mem_append, not_or]
      exact ⟨⟨h.1.2.2, by decide⟩, ih h.2⟩

theorem isHashed_ne_nil {path : List String} (h : isHashed path = true) : path ≠ [] := by
  rintro rfl
  revert h
  decide

/-- Two directories have one digest exactly when it covers the same files, if no text with a NUL
differs between them. -/
theorem routeValidationConfigHash_eq_iff {tree' : ConfigTree} {digest digest' : String}
    (hsha : Function.Injective sha256) (hnamed : tree.Named) (hnamed' : tree'.Named)
    (h : routeValidationConfigHash sha256 (some tree) = some digest)
    (h' : routeValidationConfigHash sha256 (some tree') = some digest')
    (hnul : ∀ path contents contents', (path, contents) ∈ hashedFiles tree →
      (path, contents') ∈ hashedFiles tree' → contents ≠ contents' → 0 ∉ contents ∧ 0 ∉ contents') :
    digest = digest' ↔ hashedFiles tree = hashedFiles tree' := by
  obtain ⟨-, rfl⟩ := routeValidationConfigHash_eq_some.mp h
  obtain ⟨-, rfl⟩ := routeValidationConfigHash_eq_some.mp h'
  have hnames : ∀ entry ∈ hashedFiles tree, entry.1 ≠ [] ∧ ∀ name ∈ entry.1, IsFileName name := by
    intro entry hentry
    obtain ⟨hhashed, hlookup⟩ := mem_hashedFiles.mp hentry
    exact ⟨isHashed_ne_nil hhashed, hnamed _ _ hlookup⟩
  have hnames' : ∀ entry ∈ hashedFiles tree', entry.1 ≠ [] ∧ ∀ name ∈ entry.1, IsFileName name := by
    intro entry hentry
    obtain ⟨hhashed, hlookup⟩ := mem_hashedFiles.mp hentry
    exact ⟨isHashed_ne_nil hhashed, hnamed' _ _ hlookup⟩
  constructor
  · intro heq
    refine FileTree.eq_of_stream_eq ?_ ?_ ?_ (hsha heq)
    · intro entry hentry entry' hentry' hsame
      exact asPosix_injOn (hnames entry hentry).1 (hnames' entry' hentry').1 (hnames entry hentry).2
        (hnames' entry' hentry').2 (utf8_injective hsame)
    · intro entry hentry
      obtain hentry | hentry := List.mem_append.mp hentry
      · exact zero_notMem_asPosix (hnames entry hentry).2
      · exact zero_notMem_asPosix (hnames' entry hentry).2
    · intro entry hentry entry' hentry' hpath hne
      refine hnul entry.1 entry.2 entry'.2 hentry ?_ hne
      rw [hpath]
      exact hentry'
  · intro heq
    rw [heq]

theorem hashedFiles_pairwise (tree : ConfigTree) :
    (hashedFiles tree).Pairwise fun entry entry' => entry.1 < entry'.1 := by
  refine ((tree.listing_pairwise isYml).sublist List.filter_sublist).filterMap _
    fun entry entry' hlt file hfile file' hfile' => ?_
  obtain ⟨_, -, rfl⟩ := Option.map_eq_some_iff.mp hfile
  obtain ⟨_, -, rfl⟩ := Option.map_eq_some_iff.mp hfile'
  exact hlt

/-- The files covered are the same when every path covered has the same file. -/
theorem hashedFiles_eq_iff {tree' : ConfigTree} : hashedFiles tree = hashedFiles tree' ↔
    ∀ path contents, isHashed path = true → (tree.lookup path = some { bytes := some contents } ↔
      tree'.lookup path = some { bytes := some contents }) := by
  constructor
  · intro heq path contents hhashed
    have hmem : (path, contents) ∈ hashedFiles tree ↔ (path, contents) ∈ hashedFiles tree' := by
      rw [heq]
    simpa only [mem_hashedFiles, hhashed, true_and] using hmem
  · intro h
    refine FileTree.eq_of_mem_iff (hashedFiles_pairwise tree) (hashedFiles_pairwise tree') ?_
    rintro ⟨path, contents⟩
    simp only [mem_hashedFiles]
    exact and_congr_right fun hhashed => h path contents hhashed

/-! ## Agreement -/

theorem skip_of_sameDigest (hsha : Function.Injective sha256) (h : SameDigest sha256 tree) :
    ∃ bytes, digestBytes (fun _ => false) (tree.listing isYml) = some bytes ∧
      digestBytes (fun entry => !entry.2.isFile || routeValidationHashExcluded (asPosix entry.1))
        (tree.listing isYml) = some bytes := by
  obtain ⟨digest, hroute, -, hfile⟩ := h
  obtain ⟨bytes, hbytes, rfl⟩ := Option.map_eq_some_iff.mp hroute
  simp only [fileConfigHash, Option.elim_some] at hfile
  split at hfile
  · cases hfile
  · next bytes' hbytes' =>
    obtain rfl : bytes' = bytes := hsha (Except.ok.inj hfile)
    exact ⟨bytes', hbytes', hbytes⟩

/-- The three hashes of a directory agree exactly when each `*.yml` in it is a readable file outside of
what the router leaves out. -/
theorem sameDigest_iff (sha256 : List ℕ → String) (hsha : Function.Injective sha256)
    (tree : ConfigTree) : SameDigest sha256 tree ↔ tree.Plain := by
  constructor
  · intro h path entry hyml hlookup
    have hmem : (path, entry) ∈ tree.listing isYml := FileTree.mem_listing.mpr ⟨hyml, hlookup⟩
    obtain ⟨bytes, hall, hroute⟩ := skip_of_sameDigest hsha h
    have hread := (digestBytes_eq_some.mp hall).1 (path, entry) hmem rfl
    have hskip := skip_eq_false_of_digestBytes_eq hall hroute (path, entry) hmem
    rw [Bool.or_eq_false_iff, Bool.not_eq_false'] at hskip
    exact ⟨hskip.1, hread, hskip.2⟩
  · intro hplain
    have hentry (entry) (hmem : entry ∈ tree.listing isYml) :
        entry.2.isFile = true ∧ entry.2.bytes.isSome = true ∧
          routeValidationHashExcluded (asPosix entry.1) = false := by
      obtain ⟨hyml, hlookup⟩ := FileTree.mem_listing.mp hmem
      exact hplain entry.1 entry.2 hyml hlookup
    have hall : digestBytes (fun _ => false) (tree.listing isYml) = some _ :=
      digestBytes_eq_some.mpr ⟨fun entry hmem _ => (hentry entry hmem).2.1, rfl⟩
    have hroute : digestBytes (fun entry => !entry.2.isFile ||
        routeValidationHashExcluded (asPosix entry.1)) (tree.listing isYml) = some _ :=
      (digestBytes_of_not_skip fun entry hmem => by simp [hentry entry hmem]).trans hall
    have hpromotion : digestBytes (fun entry => !entry.2.isFile) (tree.listing isYml) = some _ :=
      (digestBytes_of_not_skip fun entry hmem => by simp [hentry entry hmem]).trans hall
    exact ⟨_, by rw [routeValidationConfigHash, hroute]; rfl, by rw [promotionConfigHash, hpromotion],
      by rw [fileConfigHash, Option.elim_some, hall]⟩

/-- A digest that is injective: the bytes in unary. -/
def unaryDigest (bytes : List ℕ) : String :=
  String.ofList (bytes.flatMap fun b => List.replicate b '1' ++ ['0'])

theorem unaryDigest_injective : Function.Injective unaryDigest := by
  intro bytes bytes' heq
  replace heq := String.ofList_injective heq
  induction bytes generalizing bytes' with
  | nil =>
    cases bytes' with
    | nil => rfl
    | cons b bytes' => simp at heq
  | cons b bytes ih =>
    cases bytes' with
    | nil => simp at heq
    | cons b' bytes' =>
      simp only [List.flatMap_cons, List.append_assoc, List.singleton_append] at heq
      obtain ⟨hfirst, hrest⟩ := FileTree.eq_of_append_cons_eq (by simp) (by simp) heq
      have hb := congrArg List.length hfirst
      rw [List.length_replicate, List.length_replicate] at hb
      rw [hb, ih hrest]

/-- A directory with a policy and nothing else. -/
def policyTree : ConfigTree := Finmap.singleton ["policy.yml"] { bytes := some (utf8 "version: 1\n") }

theorem sameDigest_iff_policy : SameDigest unaryDigest policyTree := by
  refine (sameDigest_iff unaryDigest unaryDigest_injective policyTree).mpr ?_
  intro path entry _ hlookup
  have hpath : path = ["policy.yml"] :=
    (Finmap.mem_singleton ..).mp (Finmap.mem_of_lookup_eq_some hlookup)
  subst hpath
  obtain rfl := Option.some.inj ((Finmap.lookup_singleton_eq).symm.trans hlookup)
  exact ⟨rfl, rfl, by decide⟩

/-- With credentials beside the policy, the router's hash leaves them out and the other two do not. -/
theorem not_sameDigest : ¬ ∀ sha256 : List ℕ → String, Function.Injective sha256 →
    ∀ tree : ConfigTree, SameDigest sha256 tree := by
  intro h
  have hcredentials : (policyTree.insert ["credentials.yml"] { bytes := some [] }).lookup
      ["credentials.yml"] = some { bytes := some [] } := Finmap.lookup_insert _
  obtain ⟨bytes, hall, hroute⟩ := skip_of_sameDigest unaryDigest_injective
    (h unaryDigest unaryDigest_injective (policyTree.insert ["credentials.yml"] { bytes := some [] }))
  have hskip := skip_eq_false_of_digestBytes_eq hall hroute _
    (FileTree.mem_listing.mpr ⟨by decide, hcredentials⟩)
  revert hskip
  decide

end Gpucall
