import Gpucall.JsonLoads
import Gpucall.Routing.ValidationEvidence
import Gpucall.Text

/-! GPU references in `panopticon_provisioning.py`: a name from a table, perhaps with a count behind it. The type
ids are looked up without the count, whatever the case of its `x`; the count itself is only read behind a small
one. -/

namespace Gpucall

/-- What Python knows of characters: `str.upper()`, and the values of the decimal digits that `\d` and `int` take. -/
structure UnicodeData where
  upper : String → String
  digit : Char → Option ℕ
  upper_of_ascii : ∀ text, (∀ c ∈ text.toList, c.toNat < 128 ∧ c.toUpper = c) → upper text = text
  digit_of_ascii : ∀ c, c.toNat < 128 → digit c = if c.isDigit then some (c.toNat - 48) else none

def runpodGpuTypeIdsByGpuRef : List (String × List String) := [
  ("ADA_24", ["NVIDIA GeForce RTX 4090", "NVIDIA L4"]),
  ("ADA_48_PRO", ["NVIDIA RTX 6000 Ada Generation"]),
  ("AMPERE_16", ["NVIDIA RTX A4000"]),
  ("AMPERE_24", ["NVIDIA RTX A5000", "NVIDIA GeForce RTX 3090"]),
  ("AMPERE_48", ["NVIDIA RTX A6000", "NVIDIA A40"]),
  ("AMPERE_80", ["NVIDIA A100-SXM4-80GB", "NVIDIA A100 80GB PCIe"]),
  ("HOPPER_141", ["NVIDIA H200"]),
  ("HOPPER_143", ["NVIDIA H200 NVL"]),
  ("RUNPOD_A4000", ["NVIDIA RTX A4000"]),
  ("RUNPOD_A4500", ["NVIDIA RTX A4500"]),
  ("RUNPOD_RTX4000_ADA", ["NVIDIA RTX 4000 Ada Generation"]),
  ("RUNPOD_RTX4090", ["NVIDIA GeForce RTX 4090"]),
  ("RUNPOD_L4", ["NVIDIA L4"]),
  ("RUNPOD_A5000", ["NVIDIA RTX A5000"]),
  ("RUNPOD_RTX3090", ["NVIDIA GeForce RTX 3090"]),
  ("RUNPOD_L40", ["NVIDIA L40"]),
  ("RUNPOD_L40S", ["NVIDIA L40S"]),
  ("RUNPOD_RTX6000_ADA", ["NVIDIA RTX 6000 Ada Generation"]),
  ("RUNPOD_A6000", ["NVIDIA RTX A6000"]),
  ("RUNPOD_A40", ["NVIDIA A40"]),
  ("RUNPOD_A100_80GB", ["NVIDIA A100-SXM4-80GB", "NVIDIA A100 80GB PCIe"]),
  ("RUNPOD_H100_80GB", ["NVIDIA H100 80GB HBM3", "NVIDIA H100 PCIe"]),
  ("RUNPOD_H100_NVL", ["NVIDIA H100 NVL"]),
  ("RUNPOD_H200_SXM", ["NVIDIA H200"]),
  ("RUNPOD_H200_NVL", ["NVIDIA H200 NVL"]),
  ("RUNPOD_B200", ["NVIDIA B200"])]

/-- `_string` -/
def cleanString (py : Builtins) : Option Json → String
  | none | some .null | some (.bool _) => ""
  | some value => strip (pyStr py value)

section

variable (unicode : UnicodeData)

def isDecimal (c : Char) : Bool := (unicode.digit c).isSome

/-- The digits at the end of a text -/
def trailingDigits (text : String) : List Char := text.toList.rtakeWhile (isDecimal unicode)

def beforeDigits (text : String) : List Char := text.toList.rdropWhile (isDecimal unicode)

/-- `re.sub(r"\s*x\d+$", "", text, flags=re.IGNORECASE)` of a text that does not end in a newline: what is left
where something is removed -/
def withoutCount (text : String) : Option String :=
  let front := beforeDigits unicode text
  if trailingDigits unicode text ≠ [] ∧ (front.getLast? = some 'x' ∨ front.getLast? = some 'X') then
    some (String.ofList (front.dropLast.rdropWhile isSpace))
  else none

/-- `_runpod_gpu_type_ids` -/
def runpodGpuTypeIds (py : Builtins) (gpuRef : Option Json) : List String :=
  let text := cleanString py gpuRef
  let base := (withoutCount unicode text).getD text
  (runpodGpuTypeIdsByGpuRef.lookup (unicode.upper base)).getD []

/-- `int` of digits, with the limit of the interpreter -/
def intOfDigits (digits : List Char) : Except String ℕ :=
  if Json.maxStrDigits < digits.length then .error "ValueError"
  else .ok (digits.foldl (fun value c => value * 10 + (unicode.digit c).getD 0) 0)

/-- `_gpu_count` -/
def gpuCount (py : Builtins) (gpuRef : Option Json) : Except String (Option ℕ) :=
  let text := cleanString py gpuRef
  let digits := trailingDigits unicode text
  if digits ≠ [] ∧ (beforeDigits unicode text).getLast? = some 'x' then
    (intOfDigits unicode digits).map fun count => some (max 1 count)
  else .ok none

/-- A count is read exactly where a count suffix is taken off for the table. -/
def ReadsConsistently (py : Builtins) (ref : String) : Prop :=
  (∃ count, gpuCount unicode py (some (.str ref)) = .ok (some count)) ↔
    (withoutCount unicode (cleanString py (some (.str ref)))).isSome

/-- The reference gives these type ids and this count. -/
def ReadsAs (py : Builtins) (ref : String) (ids : List String) (count : Option ℕ) : Prop :=
  runpodGpuTypeIds unicode py (some (.str ref)) = ids ∧ gpuCount unicode py (some (.str ref)) = .ok count

/-- An `x` of either case, with digits behind it to the end -/
structure CountSuffix (text : String) (front : List Char) (x : Char) (digits : List Char) : Prop where
  eq : text.toList = front ++ x :: digits
  sign : x = 'x' ∨ x = 'X'
  ne_nil : digits ≠ []
  digits : ∀ c ∈ digits, isDecimal unicode c

/-- The text ends in a capital `X` with digits, or in more digits behind a small one than `int` takes. -/
def EndsInBadCount (text : String) : Prop :=
  ∃ front x digits, CountSuffix unicode text front x digits ∧ (x = 'X' ∨ Json.maxStrDigits < digits.length)

end

variable {unicode : UnicodeData} {py : Builtins} {text ref : String} {front digits : List Char} {x : Char}

theorem cleanString_stripped (value : Option Json) : strip (cleanString py value) = cleanString py value := by
  unfold cleanString
  split
  · rfl
  · rfl
  · rfl
  · exact strip_strip _

/-! ## The end of a text -/

theorem CountSuffix.not_isDecimal (h : CountSuffix unicode text front x digits) : ¬ isDecimal unicode x := by
  obtain rfl | rfl := h.sign
  · simp [isDecimal, unicode.digit_of_ascii 'x' (by decide)]
  · simp [isDecimal, unicode.digit_of_ascii 'X' (by decide)]

theorem beforeDigits_append (unicode : UnicodeData) (text : String) :
    beforeDigits unicode text ++ trailingDigits unicode text = text.toList :=
  List.rdropWhile_append_rtakeWhile

/-- A text has one count suffix at most. -/
theorem CountSuffix.before (h : CountSuffix unicode text front x digits) :
    beforeDigits unicode text = front ++ [x] := by
  rw [beforeDigits, h.eq, List.append_cons, List.rdropWhile_append_of_all h.digits,
    List.rdropWhile_concat_neg _ _ _ h.not_isDecimal]

theorem CountSuffix.trailing (h : CountSuffix unicode text front x digits) :
    trailingDigits unicode text = digits := by
  have happend := beforeDigits_append unicode text
  rw [h.before, h.eq, List.append_assoc] at happend
  exact List.cons_inj_right x |>.mp (List.append_cancel_left happend)

theorem withoutCount_of_suffix (h : CountSuffix unicode text front x digits) :
    withoutCount unicode text = some (String.ofList (front.rdropWhile isSpace)) := by
  rw [withoutCount, h.before, h.trailing]
  simp [h.ne_nil, h.sign]

theorem exists_suffix_of_withoutCount (h : (withoutCount unicode text).isSome) :
    ∃ front x digits, CountSuffix unicode text front x digits := by
  rw [withoutCount] at h
  split at h
  · next hsuffix =>
    obtain ⟨hne, hlast⟩ := hsuffix
    have hsign : ∃ x, (beforeDigits unicode text).getLast? = some x ∧ (x = 'x' ∨ x = 'X') :=
      hlast.elim (fun hx => ⟨_, hx, .inl rfl⟩) fun hx => ⟨_, hx, .inr rfl⟩
    obtain ⟨x, hx, hsign⟩ := hsign
    obtain ⟨front, hfront⟩ := List.getLast?_eq_some_iff.mp hx
    refine ⟨front, x, _, ?_, hsign, hne, fun c hc => List.mem_rtakeWhile_imp hc⟩
    rw [← beforeDigits_append unicode text, hfront, List.append_assoc, List.singleton_append]
  · contradiction

theorem gpuCount_of_suffix (h : CountSuffix unicode (strip ref) front x digits) :
    gpuCount unicode py (some (.str ref)) =
      if x = 'x' then (intOfDigits unicode digits).map fun count => some (max 1 count) else .ok none := by
  have hclean : cleanString py (some (.str ref)) = strip ref := rfl
  rw [gpuCount, hclean, h.before, h.trailing]
  simp [h.ne_nil]

theorem gpuCount_of_withoutCount (h : withoutCount unicode (strip ref) = none) :
    gpuCount unicode py (some (.str ref)) = .ok none := by
  have hclean : cleanString py (some (.str ref)) = strip ref := rfl
  rw [withoutCount] at h
  rw [gpuCount, hclean]
  split at h
  · contradiction
  · next hnot => exact if_neg fun hsuffix => hnot ⟨hsuffix.1, .inl hsuffix.2⟩

theorem not_endsInBadCount (h : withoutCount unicode text = none) : ¬ EndsInBadCount unicode text := by
  rintro ⟨front, x, digits, hsuffix, -⟩
  rw [withoutCount_of_suffix hsuffix] at h
  contradiction

/-- Whether the count is bad can be seen from any suffix. -/
theorem CountSuffix.bad_iff (h : CountSuffix unicode text front x digits) :
    EndsInBadCount unicode text ↔ x = 'X' ∨ Json.maxStrDigits < digits.length := by
  refine ⟨?_, fun hbad => ⟨front, x, digits, h, hbad⟩⟩
  rintro ⟨front', x', digits', h', hbad⟩
  obtain ⟨-, hx⟩ := List.append_inj' (h'.before.symm.trans h.before) rfl
  rwa [List.singleton_inj.mp hx, ← h'.trailing, h.trailing] at hbad

/-- A count is read where a suffix is taken off, unless the suffix is a bad one. -/
theorem readsConsistently_iff :
    ReadsConsistently unicode py ref ↔ ¬ EndsInBadCount unicode (strip ref) := by
  have hclean : cleanString py (some (.str ref)) = strip ref := rfl
  rw [ReadsConsistently, hclean]
  cases hwithout : withoutCount unicode (strip ref) with
  | none =>
    refine iff_of_true ?_ (not_endsInBadCount hwithout)
    rw [gpuCount_of_withoutCount hwithout]
    simp
  | some base =>
    obtain ⟨front, x, digits, hsuffix⟩ := exists_suffix_of_withoutCount (Option.isSome_of_eq_some hwithout)
    rw [hsuffix.bad_iff, gpuCount_of_suffix hsuffix, intOfDigits]
    obtain rfl | rfl := hsuffix.sign
    · by_cases hmany : Json.maxStrDigits < digits.length
      · simp [hmany, Except.map]
      · simp [hmany, Except.map]
    · simp

/-! ## The names of the table -/

/-- What the table needs of its names -/
structure IsGpuKey (key : String) (ids : List String) : Prop where
  ascii : ∀ c ∈ key.toList, c.toNat < 128 ∧ c.toUpper = c ∧ isSpace c = false
  ne_empty : key.toList ≠ []
  lookup : runpodGpuTypeIdsByGpuRef.lookup key = some ids

theorem isGpuKey : ∀ entry ∈ runpodGpuTypeIdsByGpuRef, IsGpuKey entry.1 entry.2 := by
  have hchars : ∀ entry ∈ runpodGpuTypeIdsByGpuRef, ∀ c ∈ entry.1.toList,
      c.toNat < 128 ∧ c.toUpper = c ∧ isSpace c = false := by decide +kernel
  have hne : ∀ entry ∈ runpodGpuTypeIdsByGpuRef, entry.1.toList ≠ [] := by decide +kernel
  have hlookup : ∀ entry ∈ runpodGpuTypeIdsByGpuRef,
      runpodGpuTypeIdsByGpuRef.lookup entry.1 = some entry.2 := by decide +kernel
  exact fun entry hentry => ⟨hchars entry hentry, hne entry hentry, hlookup entry hentry⟩

theorem isSpace_of_isDigit {c : Char} (h : c.isDigit) : isSpace c = false := by
  have hrange : 48 ≤ c.toNat ∧ c.toNat ≤ 57 := Char.isDigit_iff_toNat.mp h
  simp only [isSpace, Bool.or_eq_false_iff, Bool.and_eq_false_imp, decide_eq_true_eq, decide_eq_false_iff_not]
  omega

theorem isDecimal_of_ascii {c : Char} (h : c.toNat < 128) : isDecimal unicode c = c.isDigit := by
  rw [isDecimal, unicode.digit_of_ascii c h]
  split <;> simp_all

theorem upper_of_isGpuKey (h : IsGpuKey key ids) (hsub : text.toList ⊆ key.toList) : unicode.upper text = text :=
  unicode.upper_of_ascii text fun c hc => ⟨(h.ascii c (hsub hc)).1, (h.ascii c (hsub hc)).2.1⟩

theorem strip_of_isGpuKey (h : IsGpuKey key ids) : strip key = key :=
  strip_eq_self fun c hc => (h.ascii c hc).2.2

theorem runpodGpuTypeIds_eq {base : String} (hbase : (withoutCount unicode (strip ref)).getD (strip ref) = base) :
    runpodGpuTypeIds unicode py (some (.str ref)) = (runpodGpuTypeIdsByGpuRef.lookup (unicode.upper base)).getD [] := by
  rw [← hbase]
  rfl

/-- What is left of a name of the table that ends in a count is no name of the table. -/
theorem lookup_cut : ∀ entry ∈ runpodGpuTypeIdsByGpuRef, entry.1.toList.rtakeWhile Char.isDigit = [] ∨
    (entry.1.toList.rdropWhile Char.isDigit).getLast? ≠ some 'X' ∨
      runpodGpuTypeIdsByGpuRef.lookup
        (String.ofList ((entry.1.toList.rdropWhile Char.isDigit).dropLast.rdropWhile isSpace)) = none ∧
          entry.2 ≠ [] := by
  decide +kernel

theorem ends_of_suffix (hentry : (key, ids) ∈ runpodGpuTypeIdsByGpuRef)
    (h : CountSuffix unicode key front x digits) : x = 'X' ∧
      key.toList.rdropWhile Char.isDigit = front ++ ['X'] ∧ key.toList.rtakeWhile Char.isDigit ≠ [] := by
  have hkey := isGpuKey _ hentry
  have hmem : ∀ c ∈ x :: digits, c ∈ key.toList := fun c hc => by
    rw [h.eq]
    exact List.mem_append_right _ hc
  have hX : x = 'X' := by
    refine h.sign.resolve_left ?_
    rintro rfl
    exact absurd (hkey.ascii 'x' (hmem _ List.mem_cons_self)).2.1 (by decide)
  subst hX
  have hdigits : ∀ c ∈ digits, c.isDigit := fun c hc => by
    have hdecimal := h.digits c hc
    rwa [isDecimal_of_ascii (hkey.ascii c (hmem c (List.mem_cons_of_mem _ hc))).1] at hdecimal
  have hfront : key.toList.rdropWhile Char.isDigit = front ++ ['X'] := by
    rw [h.eq, List.append_cons, List.rdropWhile_append_of_all hdigits,
      List.rdropWhile_concat_neg _ _ _ (by decide)]
  refine ⟨rfl, hfront, fun hnil => ?_⟩
  have happend := @List.rdropWhile_append_rtakeWhile _ Char.isDigit key.toList
  rw [hnil, hfront, List.append_nil, h.eq] at happend
  exact h.ne_nil (List.cons.inj (List.append_cancel_left happend)).2.symm

theorem lookup_of_suffix (hentry : (key, ids) ∈ runpodGpuTypeIdsByGpuRef)
    (h : CountSuffix unicode key front x digits) :
    runpodGpuTypeIdsByGpuRef.lookup (String.ofList (front.rdropWhile isSpace)) = none ∧ ids ≠ [] := by
  obtain ⟨-, hfront, htrailing⟩ := ends_of_suffix hentry h
  have hcut := ((lookup_cut _ hentry).resolve_left htrailing).resolve_left
  rw [hfront, List.getLast?_concat, List.dropLast_concat] at hcut
  exact hcut (not_not_intro rfl)

/-- A name of the table alone is read as it stands there, unless it ends in what looks like a count. -/
theorem readsAs_key_iff (hentry : (key, ids) ∈ runpodGpuTypeIdsByGpuRef) :
    ReadsAs unicode py key ids none ↔ ¬ EndsInBadCount unicode key := by
  have hkey := isGpuKey _ hentry
  have hstrip := strip_of_isGpuKey hkey
  cases hwithout : withoutCount unicode key with
  | none =>
    refine iff_of_true ⟨?_, ?_⟩ (not_endsInBadCount hwithout)
    · rw [@runpodGpuTypeIds_eq _ _ _ key, upper_of_isGpuKey hkey (List.Subset.refl _), hkey.lookup, Option.getD_some]
      rw [hstrip, hwithout, Option.getD_none]
    · rw [gpuCount_of_withoutCount]
      rw [hstrip, hwithout]
  | some base =>
    obtain ⟨front, x, digits, hsuffix⟩ := exists_suffix_of_withoutCount (Option.isSome_of_eq_some hwithout)
    obtain ⟨hlookup, hne⟩ := lookup_of_suffix hentry hsuffix
    have hbad : EndsInBadCount unicode key := hsuffix.bad_iff.mpr (.inl (ends_of_suffix hentry hsuffix).1)
    refine iff_of_false (fun hreads => hne ?_) (not_not_intro hbad)
    have hbase := withoutCount_of_suffix hsuffix
    have hsub : (String.ofList (front.rdropWhile isSpace)).toList ⊆ key.toList := by
      rw [String.toList_ofList, hsuffix.eq]
      exact List.subset_append_of_subset_left _ ( List.rdropWhile_prefix _ _).subset
    rw [← hreads.1, @runpodGpuTypeIds_eq _ _ _ (String.ofList (front.rdropWhile isSpace)),
      upper_of_isGpuKey hkey hsub, hlookup, Option.getD_none]
    rw [hstrip, hbase, Option.getD_some]

/-- Two names end so. -/
theorem endsInBadCount_key_iff (hentry : (key, ids) ∈ runpodGpuTypeIdsByGpuRef) :
    EndsInBadCount unicode key ↔ key = "RUNPOD_RTX4090" ∨ key = "RUNPOD_RTX3090" := by
  have hnames : ∀ entry ∈ runpodGpuTypeIdsByGpuRef, entry.1.toList.rtakeWhile Char.isDigit = [] ∨
      (entry.1.toList.rdropWhile Char.isDigit).getLast? ≠ some 'X' ∨
        entry.1 = "RUNPOD_RTX4090" ∨ entry.1 = "RUNPOD_RTX3090" := by decide +kernel
  constructor
  · rintro ⟨front, x, digits, hsuffix, -⟩
    obtain ⟨-, hfront, htrailing⟩ := ends_of_suffix hentry hsuffix
    have hname := ((hnames _ hentry).resolve_left htrailing).resolve_left
    rw [hfront, List.getLast?_concat] at hname
    exact hname (not_not_intro rfl)
  · have hdigits : ∀ c ∈ ['4', '0', '9', '0', '3'], isDecimal unicode c := fun c hc => by
      rw [isDecimal_of_ascii ((by decide : ∀ c ∈ ['4', '0', '9', '0', '3'], c.toNat < 128) c hc)]
      exact (by decide : ∀ c ∈ ['4', '0', '9', '0', '3'], c.isDigit) c hc
    rintro (rfl | rfl)
    · exact ⟨"RUNPOD_RT".toList, 'X', ['4', '0', '9', '0'], ⟨rfl, .inr rfl, by decide, fun c hc =>
        hdigits c (List.mem_append_left ['3'] hc)⟩, .inl rfl⟩
    · exact ⟨"RUNPOD_RT".toList, 'X', ['3', '0', '9', '0'], ⟨rfl, .inr rfl, by decide, fun c hc =>
        hdigits c ((by decide : ['3', '0', '9', '0'] ⊆ ['4', '0', '9', '0', '3']) hc)⟩, .inl rfl⟩

/-- A name of the table with a count behind it, perhaps after blanks -/
def counted (key : String) (spaces : List Char) (n : ℕ) : String :=
  key ++ String.ofList spaces ++ "x" ++ toString n

theorem toList_counted (key : String) (spaces : List Char) (n : ℕ) :
    (counted key spaces n).toList = (key.toList ++ spaces) ++ 'x' :: Nat.toDigits 10 n := by
  simp [counted]

theorem isDigit_of_mem_toDigits {c : Char} (h : c ∈ Nat.toDigits 10 n) : c.isDigit :=
  Nat.isDigit_of_mem_toDigits (by decide) (by decide) h

theorem counted_suffix (key : String) (spaces : List Char) (n : ℕ) :
    CountSuffix unicode (counted key spaces n) (key.toList ++ spaces) 'x' (Nat.toDigits 10 n) where
  eq := toList_counted key spaces n
  sign := .inl rfl
  ne_nil := Nat.toDigits_ne_nil
  digits c hc := by
    have hdigit := isDigit_of_mem_toDigits hc
    rwa [isDecimal_of_ascii (lt_of_le_of_lt (Char.isDigit_iff_toNat.mp hdigit).2 (by decide))]

theorem strip_counted (hkey : IsGpuKey key ids) (spaces : List Char) (n : ℕ) :
    strip (counted key spaces n) = counted key spaces n := by
  obtain ⟨c, rest, hc⟩ := List.exists_cons_of_ne_nil hkey.ne_empty
  refine strip_eq_self_iff.mpr ⟨fun first hfirst => ?_, fun last hlast => ?_⟩
  · rw [toList_counted, hc] at hfirst
    obtain rfl : c = first := Option.some.inj hfirst
    exact (hkey.ascii c (hc ▸ List.mem_cons_self)).2.2
  · rw [toList_counted, List.append_cons, List.getLast?_append_of_ne_nil _ Nat.toDigits_ne_nil] at hlast
    exact isSpace_of_isDigit (isDigit_of_mem_toDigits (List.mem_of_getLast? hlast))

theorem intOfDigits_toDigits (h : ¬ Json.maxStrDigits < (Nat.toDigits 10 n).length) :
    intOfDigits unicode (Nat.toDigits 10 n) = .ok n := by
  rw [intOfDigits, if_neg h]
  refine congrArg Except.ok (Eq.trans (List.foldl_ext _ _ 0 fun value c hc => ?_) (foldl_toDigits n))
  have hdigit := isDigit_of_mem_toDigits hc
  rw [unicode.digit_of_ascii c (lt_of_le_of_lt (Char.isDigit_iff_toNat.mp hdigit).2 (by decide)), if_pos hdigit,
    Option.getD_some]

theorem readsAs_counted_iff (hentry : (key, ids) ∈ runpodGpuTypeIdsByGpuRef) {spaces : List Char}
    (hspaces : ∀ c ∈ spaces, isSpace c) (hn : 1 ≤ n) :
    ReadsAs unicode py (counted key spaces n) ids (some n) ↔ ¬ EndsInBadCount unicode (counted key spaces n) := by
  have hkey := isGpuKey _ hentry
  have hstrip := strip_counted hkey spaces n
  have hsuffix := @counted_suffix unicode key spaces n
  have hfront : (key.toList ++ spaces).rdropWhile isSpace = key.toList := by
    rw [List.rdropWhile_append_of_all hspaces, List.rdropWhile_eq_self_iff_getLast?]
    exact fun c hc => (hkey.ascii c (List.mem_of_getLast? hc)).2.2
  have hids : runpodGpuTypeIds unicode py (some (.str (counted key spaces n))) = ids := by
    rw [@runpodGpuTypeIds_eq _ _ _ key, upper_of_isGpuKey hkey (List.Subset.refl _), hkey.lookup,
      Option.getD_some]
    rw [hstrip, withoutCount_of_suffix hsuffix, hfront, String.ofList_toList, Option.getD_some]
  have hsuffix' := hsuffix
  rw [← hstrip] at hsuffix'
  rw [ReadsAs, and_iff_right hids, hsuffix.bad_iff, gpuCount_of_suffix hsuffix', if_pos rfl]
  by_cases hmany : Json.maxStrDigits < (Nat.toDigits 10 n).length
  · simp [intOfDigits, hmany, Except.map]
  · rw [intOfDigits_toDigits hmany]
    simp [Except.map, hmany, hn]

/-- References are read as they should be exactly where they do not end in a bad count: each text, each name of
the table alone, and each of them with a count. -/
theorem gpuRefs_iff (unicode : UnicodeData) (py : Builtins) :
    (∀ ref, ReadsConsistently unicode py ref ↔ ¬ EndsInBadCount unicode (strip ref)) ∧
      ∀ key ids, (key, ids) ∈ runpodGpuTypeIdsByGpuRef →
        (ReadsAs unicode py key ids none ↔ ¬ EndsInBadCount unicode key) ∧
          ∀ spaces n, (∀ c ∈ spaces, isSpace c) → 1 ≤ n →
            (ReadsAs unicode py (counted key spaces n) ids (some n) ↔
              ¬ EndsInBadCount unicode (counted key spaces n)) :=
  ⟨fun _ => readsConsistently_iff, fun _ _ hentry => ⟨readsAs_key_iff hentry, fun _ _ hspaces hn =>
    readsAs_counted_iff hentry hspaces hn⟩⟩

/-! ## The RTX 4090 -/

/-- Characters as far as ASCII goes -/
def asciiUnicode : UnicodeData where
  upper text := text.map Char.toUpper
  digit c := if c.isDigit then some (c.toNat - 48) else none
  upper_of_ascii text h := by
    refine String.toList_inj.mp ?_
    rw [String.toList_map]
    exact (List.map_congr_left fun c hc => (h c hc).2).trans (List.map_id _)
  digit_of_ascii _ _ := rfl

/-- Two cards of a name that does not end in a count -/
theorem gpuRefs_iff_l40 :
    ReadsAs asciiUnicode artifactBuiltins (counted "RUNPOD_L40" [' '] 2) ["NVIDIA L40"] (some 2) := by
  refine (((gpuRefs_iff asciiUnicode artifactBuiltins).2 _ _ ?_).2 _ _ ?_ ?_).mpr ?_
  · decide
  · decide
  · decide
  · rw [(counted_suffix _ _ _).bad_iff]
    decide

/-- The name of the RTX 4090 loses its end. -/
theorem not_readsAs_rtx4090 : ("RUNPOD_RTX4090", ["NVIDIA GeForce RTX 4090"]) ∈ runpodGpuTypeIdsByGpuRef ∧
    runpodGpuTypeIds asciiUnicode artifactBuiltins (some (.str "RUNPOD_RTX4090")) = [] ∧
      ¬ ReadsAs asciiUnicode artifactBuiltins "RUNPOD_RTX4090" ["NVIDIA GeForce RTX 4090"] none ∧
        ¬ ReadsConsistently asciiUnicode artifactBuiltins "RUNPOD_RTX4090" := by
  have hids : runpodGpuTypeIds asciiUnicode artifactBuiltins (some (.str "RUNPOD_RTX4090")) = [] := by
    decide +kernel
  refine ⟨by decide, hids, fun hreads => ?_, fun hreads => ?_⟩
  · exact absurd (hids.symm.trans hreads.1) (by decide)
  · have hcount : gpuCount asciiUnicode artifactBuiltins (some (.str "RUNPOD_RTX4090")) = .ok none := by rfl
    obtain ⟨count, hsome⟩ := hreads.mpr (by decide +kernel)
    exact Option.some_ne_none count (Except.ok.inj (hsome.symm.trans hcount))

end Gpucall
