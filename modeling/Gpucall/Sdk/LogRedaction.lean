import Gpucall.Lib.Search
import Gpucall.Text
import Gpucall.Url

/-! The filter that the SDK puts before the logs of its HTTP client. It reads each text as one URL, and takes the
query from it if it is one. -/

namespace Gpucall

/-! ## urlsplit -/

structure SplitResult where
  scheme : List Char
  netloc : List Char
  path : List Char
  query : List Char
  fragment : List Char

/-- The netlocs that pass `_check_bracketed_netloc` and `_checknetloc`: addresses in brackets are well formed, and
no separator comes out of the normalization. -/
abbrev NetlocCheck := List Char → Bool

/-- The scheme, which ends at the first colon, and what is behind it. -/
def splitScheme (url : List Char) : List Char × List Char :=
  let scheme := url.takeWhile (· ≠ ':')
  if scheme.length < url.length && scheme.head?.any Char.isAlpha && scheme.all schemeChar then
    (scheme.map Char.toLower, url.drop (scheme.length + 1))
  else ([], url)

/-- `_splitnetloc`, if the text begins with two slashes -/
def splitNetloc (url : List Char) : List Char × List Char :=
  if url.take 2 = ['/', '/'] then (url.drop 2).span fun c => c ∉ ['/', '?', '#'] else ([], url)

/-- `urlsplit`, or none if it raises -/
def urlsplit (check : NetlocCheck) (url : List Char) : Option SplitResult :=
  let url := (url.dropWhile fun c => c.toNat ≤ 32).filter fun c => c ∉ ['\t', '\r', '\n']
  let (scheme, url) := splitScheme url
  let (netloc, url) := splitNetloc url
  if decide ('[' ∈ netloc) != decide (']' ∈ netloc) || !check netloc then none
  else
    let behind := url.takeWhile (· ≠ '#')
    some { scheme, netloc
           path := behind.takeWhile (· ≠ '?')
           query := (behind.dropWhile (· ≠ '?')).drop 1
           fragment := (url.dropWhile (· ≠ '#')).drop 1 }

def usesNetloc : List (List Char) :=
  ["ftp", "http", "gopher", "nntp", "telnet", "imap", "wais", "file", "mms", "https", "shttp", "snews", "prospero",
    "rtsp", "rtspu", "rsync", "svn", "svn+ssh", "sftp", "nfs", "git", "git+ssh", "ws", "wss"].map String.toList

/-- The part of `urlunsplit` before the query -/
def SplitResult.front (parts : SplitResult) : List Char :=
  let url :=
    if parts.netloc ≠ [] ∨ parts.scheme ∈ usesNetloc ∧ parts.path.take 2 ≠ ['/', '/'] then
      ['/', '/'] ++ parts.netloc ++
        (if parts.path ≠ [] ∧ parts.path.take 1 ≠ ['/'] then '/' :: parts.path else parts.path)
    else parts.path
  if parts.scheme ≠ [] then parts.scheme ++ ':' :: url else url

def urlunsplit (parts : SplitResult) : List Char :=
  parts.front ++ (if parts.query ≠ [] then '?' :: parts.query else []) ++
    (if parts.fragment ≠ [] then '#' :: parts.fragment else [])

/-! ## The filter -/

def redactedQuery : List Char := "<redacted>".toList

section

variable (check : NetlocCheck)

/-- `_redact_url_text` -/
def redactUrlText (value : List Char) : List Char :=
  if ¬ "://".toList <:+: value then value
  else
    match urlsplit check value with
    | none => value
    | some parsed =>
      if parsed.scheme ∉ ["http".toList, "https".toList] then value
      else if parsed.query ≠ [] then urlunsplit { parsed with query := redactedQuery }
      else value

/-- An argument of a record: a string, or another value with what `str` makes of it. -/
inductive LogValue where
  | str (text : List Char)
  | other (text : List Char)

def LogValue.text : LogValue → List Char
  | .str text => text
  | .other text => text

/-- `_redact_log_arg` -/
def redactLogArg : LogValue → LogValue
  | .str text => .str (redactUrlText check text)
  | .other text =>
    if "://".toList <:+: text ∧ redactUrlText check text ≠ text then .str (redactUrlText check text)
    else .other text

inductive LogArgs where
  | tuple (values : List LogValue)
  | dict (values : Dict LogValue)

structure LogRecord where
  msg : List Char
  args : LogArgs

/-- `_HTTPLogRedactionFilter.filter` -/
def LogRecord.filter (record : LogRecord) : LogRecord where
  msg := redactUrlText check record.msg
  args := match record.args with
    | .tuple values => .tuple (values.map (redactLogArg check))
    | .dict values => .dict (values.filterMap fun value => some (redactLogArg check value))

def LogArgs.values : LogArgs → List LogValue
  | .tuple values => values
  | .dict values => values.values

/-- The texts that a formatted record is made of: the message and the arguments. -/
def LogRecord.texts (record : LogRecord) : List (List Char) := record.msg :: record.args.values.map LogValue.text

/-- A character that may stand in a URL in a text: it is no blank, no quote and no angle bracket, and begins no
fragment. -/
def isUrlChar (c : Char) : Bool := !isSpace c && c ∉ ['"', '<', '>', '#']

/-- Somewhere in the text there is a URL of the web with a query. -/
def ShowsQuery (text : List Char) : Prop :=
  ∃ before scheme body c after, text = before ++ (scheme ++ "://".toList ++ body) ++ '?' :: c :: after ∧
    scheme.map Char.toLower ∈ ["http".toList, "https".toList] ∧
    (∀ x ∈ body, isUrlChar x = true ∧ x ≠ '?') ∧ isUrlChar c = true

/-- The text is read as one URL of the web with a query. -/
def readAsUrl (value : List Char) : Option SplitResult :=
  if "://".toList <:+: value then
    (urlsplit check value).filter fun parsed =>
      parsed.scheme ∈ ["http".toList, "https".toList] ∧ parsed.query ≠ []
  else none

/-- What the filter leaves of a text: the fragment of a URL, or all of what is no URL. -/
def leftInClear (value : List Char) : List Char := ((readAsUrl check value).map SplitResult.fragment).getD value

end

variable {check : NetlocCheck} {value text : List Char} {parts : SplitResult}

theorem redactUrlText_eq :
    redactUrlText check value =
      ((readAsUrl check value).map fun parsed => urlunsplit { parsed with query := redactedQuery }).getD value := by
  unfold redactUrlText readAsUrl
  by_cases hinfix : "://".toList <:+: value
  · rw [if_neg (not_not_intro hinfix), if_pos hinfix]
    cases urlsplit check value with
    | none => rfl
    | some parsed =>
      rw [Option.filter_some]
      dsimp only
      by_cases hscheme : parsed.scheme ∈ ["http".toList, "https".toList]
      · rw [if_neg (not_not_intro hscheme)]
        by_cases hquery : parsed.query = []
        · rw [if_neg (not_not_intro hquery), if_neg fun h => (of_decide_eq_true h).2 hquery]
          rfl
        · rw [if_pos hquery, if_pos (decide_eq_true ⟨hscheme, hquery⟩)]
          rfl
      · rw [if_pos hscheme, if_neg fun h => hscheme (of_decide_eq_true h).1]
        rfl
  · rw [if_pos hinfix, if_neg hinfix]
    rfl

/-! ## One text -/

theorem ShowsQuery.append_left (h : ShowsQuery text) (front : List Char) : ShowsQuery (front ++ text) := by
  obtain ⟨before, scheme, body, c, after, rfl, hscheme, hbody, hc⟩ := h
  exact ⟨front ++ before, scheme, body, c, after, by simp only [List.append_assoc], hscheme, hbody, hc⟩

theorem schemeChar_toLower {c : Char} (h : schemeChar c = true) : schemeChar c.toLower = true := by
  unfold Char.toLower
  split
  · rename_i hupper
    have hrange : 65 ≤ c.val.toNat ∧ c.val.toNat ≤ 90 := hupper
    have hval : (c.val + ('a'.val - 'A'.val)).toNat = c.val.toNat + 32 := by
      have hgap : ('a'.val - 'A'.val).toNat = 32 := by decide
      rw [UInt32.toNat_add]
      omega
    have ha : 'a'.val.toNat = 97 := by decide
    have hz : 'z'.val.toNat = 122 := by decide
    rw [schemeChar, Bool.or_eq_true, Utf8.isAlphanum_iff, Char.toNat, hval]
    omega
  · exact h

theorem schemeChar_splitScheme {url : List Char} {c : Char} (hc : c ∈ (splitScheme url).1) : schemeChar c = true := by
  unfold splitScheme at hc
  dsimp only at hc
  split_ifs at hc with hfound
  · obtain ⟨d, hd, rfl⟩ := List.mem_map.mp hc
    rw [Bool.and_eq_true] at hfound
    exact schemeChar_toLower (List.all_eq_true.mp hfound.2 d hd)
  · cases hc

theorem not_mem_splitNetloc {url : List Char} {c : Char} (hc : c ∈ ['/', '?', '#']) : c ∉ (splitNetloc url).1 := by
  unfold splitNetloc
  split_ifs
  · intro hmem
    rw [List.span_eq_takeWhile_dropWhile] at hmem
    have hnot := List.mem_takeWhile_imp hmem
    simp_all
  · exact List.not_mem_nil

theorem SplitResult.not_mem_front {x : Char} (hx : x ∉ [':', '/']) (hscheme : x ∉ parts.scheme)
    (hnetloc : x ∉ parts.netloc) (hpath : x ∉ parts.path) : x ∉ parts.front := by
  unfold SplitResult.front
  simp only [List.mem_cons, List.not_mem_nil, or_false, not_or] at hx
  split_ifs <;> simp [hx.1, hx.2, hscheme, hnetloc, hpath]

/-- Nothing before the query has the mark of one in it. -/
theorem urlsplit_front (h : urlsplit check value = some parts) : '?' ∉ parts.front := by
  unfold urlsplit at h
  dsimp only at h
  split_ifs at h
  obtain rfl := Option.some.inj h
  refine SplitResult.not_mem_front (by decide) (fun hmem => ?_) (not_mem_splitNetloc (by decide)) fun hmem => ?_
  · have := schemeChar_splitScheme hmem
    revert this
    decide
  · have := List.mem_takeWhile_imp hmem
    simp at this

/-- Behind a query that was redacted, the next query is in the fragment. -/
theorem mark_behind_redacted {tail head after : List Char} {c : Char} (hquery : '?' ∉ parts.front)
    (hc : isUrlChar c = true) (h : parts.front ++ '?' :: redactedQuery ++ tail = head ++ '?' :: c :: after) :
    ∃ middle, head = parts.front ++ '?' :: redactedQuery ++ middle ∧ tail = middle ++ '?' :: c :: after := by
  rw [List.append_assoc] at h
  obtain ⟨middle, rfl, hrest⟩ := Search.append_eq_append_cons h hquery
  cases middle with
  | nil =>
    -- the query itself begins with a bracket
    obtain rfl : '<' = c := (List.cons.inj (List.cons.inj hrest).2).1
    exact absurd hc (by decide)
  | cons y middle =>
    obtain ⟨rfl, hbehind⟩ := List.cons.inj hrest
    obtain ⟨middle, rfl, htail⟩ := Search.append_eq_append_cons hbehind (by decide)
    exact ⟨middle, by rw [List.append_assoc, List.cons_append], htail⟩

theorem not_mem_scheme {scheme : List Char} (h : scheme.map Char.toLower ∈ ["http".toList, "https".toList]) :
    '#' ∉ scheme := by
  intro hmem
  have hlower : '#' ∈ scheme.map Char.toLower := List.mem_map.mpr ⟨'#', hmem, by decide⟩
  rw [List.mem_cons, List.mem_singleton] at h
  obtain h | h := h <;> rw [h] at hlower <;> revert hlower <;> decide

/-- A text that was read as a URL shows a query where its fragment does. -/
theorem showsQuery_urlunsplit (hquery : '?' ∉ parts.front) :
    ShowsQuery (urlunsplit { parts with query := redactedQuery }) ↔ ShowsQuery parts.fragment := by
  have hunsplit : urlunsplit { parts with query := redactedQuery } =
    parts.front ++ '?' :: redactedQuery ++ if parts.fragment ≠ [] then '#' :: parts.fragment else [] := rfl
  rw [hunsplit]
  constructor
  · rintro ⟨before, scheme, body, c, after, heq, hscheme, hbody, hc⟩
    obtain ⟨middle, hhead, htail⟩ := mark_behind_redacted hquery hc heq
    split_ifs at htail
    · cases middle with
      | nil => cases (List.cons.inj htail).1
      | cons y middle =>
        obtain ⟨rfl, hfragment⟩ := List.cons.inj htail
        -- the URL has no fragment of its own, so it stands in this one
        have hmark : '#' ∉ scheme ++ "://".toList ++ body := by
          simp only [List.mem_append, not_or]
          exact ⟨⟨not_mem_scheme hscheme, by decide⟩, fun hmem => absurd (hbody _ hmem).1 (by decide)⟩
        obtain ⟨front, rfl⟩ := Search.cons_append_eq_append hhead.symm hmark
        exact ⟨front, scheme, body, c, after, hfragment, hscheme, hbody, hc⟩
    · simp at htail
  · intro h
    have hfragment : parts.fragment ≠ [] := by
      rintro hnil
      obtain ⟨before, scheme, body, c, after, heq, -⟩ := h
      simp [hnil] at heq
    rw [if_pos hfragment, ← List.singleton_append (x := '#'), ← List.append_assoc]
    exact h.append_left _

theorem showsQuery_redactUrlText : ShowsQuery (redactUrlText check value) ↔ ShowsQuery (leftInClear check value) := by
  rw [redactUrlText_eq, leftInClear]
  cases hread : readAsUrl check value with
  | none => rfl
  | some parsed =>
    unfold readAsUrl at hread
    split_ifs at hread
    exact showsQuery_urlunsplit (urlsplit_front (Option.filter_eq_some_iff.mp hread).1)

/-! ## A record -/

theorem text_redactLogArg (value : LogValue) :
    (redactLogArg check value).text = redactUrlText check value.text := by
  cases value with
  | str text => rfl
  | other text =>
    unfold redactLogArg
    dsimp only
    split_ifs with h
    · rfl
    · rw [not_and, not_not] at h
      by_cases hinfix : "://".toList <:+: text
      · exact (h hinfix).symm
      · exact (if_pos hinfix).symm

theorem texts_filter (record : LogRecord) :
    (record.filter check).texts = record.texts.map (redactUrlText check) := by
  have hvalues : (record.filter check).args.values = record.args.values.map (redactLogArg check) := by
    unfold LogRecord.filter
    cases record.args with
    | tuple values => rfl
    | dict values =>
      simp [LogArgs.values, Dict.values, Dict.filterMap]
  unfold LogRecord.texts
  rw [hvalues, List.map_cons, List.map_map, List.map_map]
  exact congrArg _ (List.map_congr_left fun value _ => text_redactLogArg value)

/-- A record that has passed the filter shows no query of a URL exactly when each of its texts has been read as one
URL whose fragment shows none, or has shown none itself. -/
theorem showsNoQuery_iff (check : NetlocCheck) (record : LogRecord) :
    (∀ text ∈ (record.filter check).texts, ¬ ShowsQuery text) ↔
      ∀ text ∈ record.texts, ¬ ShowsQuery (leftInClear check text) := by
  simp only [texts_filter, List.forall_mem_map, showsQuery_redactUrlText]

/-- A request in the log, with a signed URL behind its method -/
def signedRequest : LogRecord where
  msg := "HTTP Request: %s".toList
  args := .tuple [.str "GET https://objects.example/a?signature=5eed".toList]

/-- With a word before it, a URL is none. -/
theorem not_showsNoQuery_method : ((signedRequest.filter fun _ => true).texts = signedRequest.texts) ∧
    ∃ text ∈ (signedRequest.filter fun _ => true).texts, ShowsQuery text := by
  refine ⟨by decide, _, List.mem_cons_of_mem _ List.mem_cons_self, "GET ".toList, "https".toList,
    "objects.example/a".toList, 's', "ignature=5eed".toList, by decide, by decide, by decide, by decide⟩

end Gpucall
