import Gpucall.Admin.InboxRun
import Gpucall.Admin.LiveValidation
import Gpucall.JsonLoads
import Mathlib.Logic.Relation

/-! The status of a submission as `submit.py` reads it from the folders of an inbox, after submissions and runs of
`process_inbox` in any order. Both readers let a report decide, and they look into the folders in different orders.
While every id goes through the folders once and no draft is rejected, the status is that of its folder. -/

namespace Gpucall.Inbox

open Effects

/-! ## Ids -/

def isSafeChar (c : Char) : Bool := c.isAlphanum || c ∈ ['_', '.', '-']

/-- `_SAFE_REQUEST_ID.match`. A `$` matches before a line break at the end, too. -/
def isSafeRequestId (value : String) : Bool :=
  let id := if value.toList.getLast? = some '\n' then value.toList.dropLast else value.toList
  id ≠ [] && id.all isSafeChar

/-- `_safe_request_id` -/
def safeRequestId (value : String) : Except ActivationError String :=
  if isSafeRequestId value then .ok value
  else .error (.valueError "submission request_id contains unsupported characters")

/-! ## Submissions -/

/-- A file that `submit_bundle` has written: the fields of its bundle, and how many were written before. -/
structure Submitted where
  fields : List (String × Json)
  serial : ℕ

def readsSubmitted (file : Submitted) : Except ActivationError Json := .ok (.obj file.fields)

/-- `str(bundle.get("request_id") or uuid.uuid4().hex)` -/
def bundleRequestId (py : Builtins) (fields : List (String × Json)) (uuid : String) : String :=
  match ((Dict.ofFields fields).get? "request_id").filter Json.truthy with
  | some requestId => pyStr py requestId
  | none => uuid

/-- The place of a submission in a folder -/
def submissionPath (folder : List String) (requestId : String) : InboxPath := ⟨folder, requestId ++ ".json"⟩

/-- An inbox with what happened in it: the last submission of each id, how many there were, and the results of the
runs. -/
structure InboxHistory where
  world : InboxWorld Submitted
  latest : String → Option ℕ
  count : ℕ
  results : List InboxResult

namespace InboxHistory

def empty : InboxHistory where
  world := { file := fun _ => none, report := fun _ => false, table := .ofFields [] }
  latest _ := none
  count := 0
  results := []

/-- `submit_bundle`, for an id that is safe -/
def submit (h : InboxHistory) (inbox : List String) (requestId : String) (fields : List (String × Json)) :
    InboxHistory where
  world := { h.world with file := fun path =>
    if path = (submissionPath inbox requestId).names then some ⟨fields, h.count⟩ else h.world.file path }
  latest id := if id = requestId then some h.count else h.latest id
  count := h.count + 1
  results := h.results

/-- What a run leaves. -/
def process (h : InboxHistory) (r : Except InboxError (List InboxResult)) (world : InboxWorld Submitted) :
    InboxHistory :=
  { h with world, results := h.results ++ r.toOption.getD [] }

end InboxHistory

/-- The folders below the inbox, which `process_inbox` takes when it is given no others. -/
structure InboxFolders.Default (inbox : List String) (folders : InboxFolders) : Prop where
  inbox_eq : folders.inbox = inbox
  processed_eq : folders.processed = inbox ++ ["processed"]
  failed_eq : folders.failed = inbox ++ ["failed"]
  reports_eq : folders.reports = inbox ++ ["reports"]

/-- A submission of an id that may be submitted, or a run whose calls are answered as some condition wants it. -/
inductive HistoryStep (py : Builtins) (alnum : Alphanumeric) (text : ActivationError → String) (inbox : List String)
    (submits : InboxWorld Submitted → String → Prop)
    (also : InboxWorld Submitted → Event InboxCall InboxCall.Result InboxError → Prop) (h : InboxHistory) :
    InboxHistory → Prop
  | submit (fields : List (String × Json)) (uuid requestId : String)
      (hid : safeRequestId (bundleRequestId py fields uuid) = .ok requestId) (hmay : submits h.world requestId) :
      HistoryStep py alnum text inbox submits also h (h.submit inbox requestId fields)
  | process (env : Environment) (conv : Conversions) (world : Materialization) (folders : InboxFolders)
      (automation : InboxAutomation) (r : Except InboxError (List InboxResult)) (w : InboxWorld Submitted)
      (hdefault : folders.Default inbox)
      (hrun : (processInbox py env conv world alnum text folders automation).RunsTo
        (inboxProtocol readsSubmitted folders also) h.world r w) :
      HistoryStep py alnum text inbox submits also h (h.process r w)

/-! ## Status -/

/-- `path.exists()` of a file -/
def InboxWorld.there {F : Type} (w : InboxWorld F) (path : List String) : Bool := w.report path || (w.file path).isSome

inductive SubmissionStatus where
  | found (status : RequestStatus)
  | missing
  deriving DecidableEq

/-- Where the readers look for submissions that have come to a status. -/
def statusFolder (inbox : List String) : RequestStatus → List String
  | .pending => inbox
  | .processing => inbox ++ ["processing"]
  | .processed => inbox ++ ["processed"]
  | .failed => inbox ++ ["failed"]

section Readers

variable {F : Type} (w : InboxWorld F) (inbox : List String) (requestId : String)

/-- The first status whose folder holds a submission of the id, where no report decides. -/
def firstStatus (order : List RequestStatus) : SubmissionStatus :=
  if w.there (reportPath (inbox ++ ["reports"]) requestId .report) then .found .processed
  else match order.find? fun status => w.there (submissionPath (statusFolder inbox status) requestId).names with
    | some status => .found status
    | none => .missing

/-- `get_submission_status` -/
def getSubmissionStatus : Except ActivationError SubmissionStatus := do
  let requestId ← safeRequestId requestId
  return firstStatus w inbox requestId [.pending, .processing, .processed, .failed]

/-- What `_remote_status_command` prints: the literal of the id as it stands in the output, and the status. -/
structure PrintedStatus where
  requestId : String
  status : SubmissionStatus

/-- Of what can be in an id, `json.dumps` escapes only a line break, and `printf` makes it one again. -/
def remoteStatusCommand : PrintedStatus where
  requestId := "\"" ++ requestId ++ "\""
  status := firstStatus w inbox requestId [.processed, .processing, .failed, .pending]

/-- `summarize_status(json.loads(..))`. The output is no JSON where one of its literals is none. -/
def summarizePrinted (limit : ℕ) (printed : PrintedStatus) : Except ActivationError SubmissionStatus :=
  match Json.loads limit printed.requestId with
  | .ok (.str requestId) => do
    let _ ← safeRequestId requestId
    return printed.status
  | .ok _ => .error .typeError
  | .error _ => .error (.valueError "Invalid control character")

/-- `get_remote_submission_status` -/
def getRemoteSubmissionStatus (limit : ℕ) : Except ActivationError SubmissionStatus := do
  let requestId ← safeRequestId requestId
  summarizePrinted limit (remoteStatusCommand w inbox requestId)

end Readers

/-! ## What is claimed of the status -/

/-- The readers agree on an id, their status says where its last submission is, and it is not `processed` when that
was reported to have failed. -/
structure Truthful (limit : ℕ) (inbox : List String) (h : InboxHistory) (requestId : String) : Prop where
  agree : ∃ status, getSubmissionStatus h.world inbox requestId = .ok status ∧
    getRemoteSubmissionStatus h.world inbox requestId limit = .ok status
  folder : ∀ serial, h.latest requestId = some serial → ∀ status,
    getSubmissionStatus h.world inbox requestId = .ok (.found status) ↔
      ∃ name file, h.world.file (statusFolder inbox status ++ [name]) = some file ∧ file.serial = serial
  refused : ∀ result ∈ h.results, result.ok = false → ∀ file, h.world.file result.submission = some file →
    h.latest requestId = some file.serial →
      getSubmissionStatus h.world inbox requestId ≠ .ok (.found .processed)

/-- An id that may be submitted: no line break ends it, and no submission of it has left the inbox. -/
structure Submits (inbox : List String) (w : InboxWorld Submitted) (requestId : String) : Prop where
  line : '\n' ∉ requestId.toList
  report : w.there (reportPath (inbox ++ ["reports"]) requestId .report) = false
  inInbox : ∀ status ≠ .pending, w.there (submissionPath (statusFolder inbox status) requestId).names = false

/-- The operations on the files and on the index succeed, and no draft is rejected. -/
def Accepts (w : InboxWorld Submitted) (e : Event InboxCall InboxCall.Result InboxError) : Prop :=
  Works readsSubmitted w e ∧ match e with
    | ⟨.validateDraft _, .ok (some _)⟩ => False
    | _ => True

/-! ## Names -/

section Names

variable {requestId other : String} {folder folder' : List String} {inbox : List String}
  {status status' : RequestStatus}

/-- An id that is safe and ends in no line break -/
structure IsName (requestId : String) : Prop where
  ne : requestId ≠ ""
  safe : ∀ c ∈ requestId.toList, isSafeChar c = true

theorem isName_of_safe (hsafe : isSafeRequestId requestId = true) (hline : '\n' ∉ requestId.toList) :
    IsName requestId := by
  have hlast : requestId.toList.getLast? ≠ some '\n' := fun h => hline (List.mem_of_getLast? h)
  simp only [isSafeRequestId, if_neg hlast, Bool.and_eq_true, decide_eq_true_eq, List.all_eq_true] at hsafe
  exact ⟨fun h => hsafe.1 (by rw [h]; rfl), hsafe.2⟩

theorem IsName.safeRequestId (h : IsName requestId) : safeRequestId requestId = .ok requestId := by
  have hlast : requestId.toList.getLast? ≠ some '\n' := fun hlast =>
    absurd (h.safe _ (List.mem_of_getLast? hlast)) (by decide)
  have hne : requestId.toList ≠ [] := fun hnil => h.ne (String.toList_inj.mp hnil)
  rw [Inbox.safeRequestId, if_pos]
  simp only [isSafeRequestId, if_neg hlast, Bool.and_eq_true, decide_eq_true_eq, List.all_eq_true]
  exact ⟨hne, h.safe⟩

theorem submissionPath_inj :
    (submissionPath folder requestId).names = (submissionPath folder' other).names ↔
      folder = folder' ∧ requestId = other := by
  rw [InboxPath.names_inj, submissionPath, submissionPath, InboxPath.mk.injEq, String.append_left_inj]

theorem statusFolder_inj : statusFolder inbox status = statusFolder inbox status' ↔ status = status' := by
  refine ⟨fun h => ?_, fun h => h ▸ rfl⟩
  cases status <;> cases status' <;> simp [statusFolder] at h ⊢

theorem reports_ne_statusFolder (status : RequestStatus) : inbox ++ ["reports"] ≠ statusFolder inbox status := by
  cases status <;> simp [statusFolder]

theorem ReportKind.suffix_length (kind : ReportKind) : 5 < kind.suffix.toList.length := by
  cases kind <;> decide

/-- A report of a name goes into the folder of the reports. -/
theorem reportPath_name (h : IsName requestId) (kind : ReportKind) :
    reportPath folder requestId kind = folder ++ [requestId ++ kind.suffix] := by
  have hslash : '/' ∉ kind.suffix.toList := by cases kind <;> decide
  refine PosixPath.join_name (fun hmem => ?_) ?_
  · rw [String.toList_append, List.mem_append] at hmem
    rcases hmem with hmem | hmem
    · exact absurd (h.safe _ hmem) (by decide)
    · exact hslash hmem
  · have hlength : 5 < (requestId ++ kind.suffix).toList.length := by
      rw [String.toList_append, List.length_append]
      exact Nat.lt_add_left _ kind.suffix_length
    refine ⟨?_, ?_, ?_⟩ <;>
      · intro heq
        rw [heq] at hlength
        exact absurd hlength (by decide)

/-- No report of another kind is at the place of a report. -/
theorem reportPath_kind_ne {kind : ReportKind} (hkind : kind ≠ .report) :
    reportPath folder other .report ≠ reportPath folder requestId kind :=
  fun heq => hkind (reportPath_eq heq .report).1.symm

theorem reportPath_inj (h : IsName requestId) (h' : IsName other) :
    reportPath folder other .report = reportPath folder requestId .report ↔ other = requestId := by
  rw [reportPath_name h, reportPath_name h', List.append_right_inj, List.singleton_inj, String.append_left_inj]

theorem pathStem_submissionPath (h : requestId ≠ "") : pathStem (requestId ++ ".json") = requestId := by
  have hbackwards : (requestId ++ ".json").toList.reverse =
      ['n', 'o', 's', 'j'] ++ '.' :: requestId.toList.reverse := by
    rw [String.toList_append, List.reverse_append]
    rfl
  have hne : requestId.toList.reverse ≠ [] := fun hnil =>
    h (String.toList_inj.mp (List.reverse_eq_nil_iff.mp hnil))
  rw [pathStem, stemAndSuffix, hbackwards]
  simp [hne]

end Names

/-! ## Literals -/

section Literals

variable {requestId : String} {limit : ℕ}

/-- Characters that no escape and no quote is among are scanned before what is behind them. -/
theorem scanString_append {s rest : List Char} (h : ∀ c ∈ s, c ≠ '"' ∧ c ≠ '\\' ∧ 32 ≤ c.toNat) (fuel : ℕ) :
    Json.scanString (s.length + fuel) (s ++ rest) = (Json.scanString fuel rest).map fun scanned =>
      (s ++ scanned.1, scanned.2) := by
  induction s with
  | nil =>
    rw [List.length_nil, Nat.zero_add, List.nil_append]
    cases Json.scanString fuel rest <;> rfl
  | cons c s ih =>
    obtain ⟨hc, hs⟩ := List.forall_mem_cons.mp h
    have hscan : Json.scanChar (c :: (s ++ rest)) = some (c, s ++ rest) := by
      unfold Json.scanChar
      split
      · next heq => exact absurd (List.cons.inj heq).1 hc.2.1
      · next heq => exact absurd (List.cons.inj heq).1 hc.2.1
      · next heq => exact absurd (List.cons.inj heq).1 hc.2.1
      · next heq =>
        obtain ⟨rfl, rfl⟩ := List.cons.inj heq
        exact if_neg (Nat.not_lt.mpr hc.2.2)
      · next heq => exact nomatch heq
    rw [List.cons_append, List.length_cons, Nat.succ_add, Json.scanString]
    · rw [hscan]
      dsimp only
      rw [ih hs]
      cases Json.scanString fuel rest <;> rfl
    · exact fun rest' heq => hc.1 (List.cons.inj heq).1

theorem isSafeChar_plain {c : Char} (h : isSafeChar c = true) : c ≠ '"' ∧ c ≠ '\\' ∧ 32 ≤ c.toNat := by
  refine ⟨by rintro rfl; exact absurd h (by decide), by rintro rfl; exact absurd h (by decide), ?_⟩
  simp only [isSafeChar, Bool.or_eq_true, Utf8.isAlphanum_iff, decide_eq_true_eq, List.mem_cons, List.not_mem_nil,
    or_false] at h
  rcases h with h | rfl | rfl | rfl
  · omega
  · decide
  · decide
  · decide

/-- A literal is scanned behind its quote. -/
theorem loads_quoted : Json.loads limit ("\"" ++ requestId ++ "\"") =
    (do
      let (text, rest) ← Json.scanString (requestId.toList ++ ['"']).length (requestId.toList ++ ['"'])
      if Json.skipSpace rest = [] then return .str (String.ofList text) else throw .decode) := by
  have htext : ("\"" ++ requestId ++ "\"").toList = '"' :: (requestId.toList ++ ['"']) := by
    rw [String.toList_append, String.toList_append]
    rfl
  have hskip : Json.skipSpace ('"' :: (requestId.toList ++ ['"'])) = '"' :: (requestId.toList ++ ['"']) :=
    List.dropWhile_cons_of_neg (by decide)
  have hhead : ¬ ('"' :: (requestId.toList ++ ['"'])).head? = some (Char.ofNat 0xfeff) := by
    rw [List.head?_cons]
    decide
  rw [Json.loads, htext]
  dsimp only
  rw [if_neg hhead, hskip, Json.scanOnce]
  cases Json.scanString (requestId.toList ++ ['"']).length (requestId.toList ++ ['"']) <;> rfl

/-- The literal of a name is read as the name. -/
theorem loads_literal (h : IsName requestId) : Json.loads limit ("\"" ++ requestId ++ "\"") = .ok (.str requestId) := by
  have hscan : Json.scanString (requestId.toList ++ ['"']).length (requestId.toList ++ ['"']) =
      .ok (requestId.toList, []) := by
    rw [List.length_append, scanString_append fun c hc => isSafeChar_plain (h.safe c hc)]
    simp [Json.scanString, Except.map]
  rw [loads_quoted, hscan]
  simp [bind, Except.bind, pure, Except.pure, Json.skipSpace]

/-- An id that is safe but for the line break at its end -/
theorem exists_of_line (hsafe : isSafeRequestId requestId = true) (hline : '\n' ∈ requestId.toList) :
    ∃ s, requestId.toList = s ++ ['\n'] ∧ ∀ c ∈ s, isSafeChar c = true := by
  simp only [isSafeRequestId, Bool.and_eq_true, decide_eq_true_eq, List.all_eq_true] at hsafe
  by_cases hlast : requestId.toList.getLast? = some '\n'
  · rw [if_pos hlast] at hsafe
    exact ⟨_, (List.dropLast_append_getLast? _ hlast).symm, hsafe.2⟩
  · rw [if_neg hlast] at hsafe
    exact absurd (hsafe.2 _ hline) (by decide)

/-- The literal of an id with a line break at its end is none. -/
theorem loads_line (hsafe : isSafeRequestId requestId = true) (hline : '\n' ∈ requestId.toList) :
    Json.loads limit ("\"" ++ requestId ++ "\"") = .error .decode := by
  obtain ⟨s, hs, hplain⟩ := exists_of_line hsafe hline
  have hscan : Json.scanString (requestId.toList ++ ['"']).length (requestId.toList ++ ['"']) = .error .decode := by
    rw [hs, List.append_assoc, List.length_append, scanString_append fun c hc => isSafeChar_plain (hplain c hc)]
    rfl
  rw [loads_quoted, hscan]
  rfl

/-- The readers never agree on such an id. -/
theorem status_disagrees {F : Type} {w : InboxWorld F} {inbox : List String}
    (hsafe : isSafeRequestId requestId = true) (hline : '\n' ∈ requestId.toList) :
    (∃ status, getSubmissionStatus w inbox requestId = .ok status) ∧
      ∃ e, getRemoteSubmissionStatus w inbox requestId limit = .error e := by
  have hid : safeRequestId requestId = .ok requestId := if_pos hsafe
  rw [getSubmissionStatus, getRemoteSubmissionStatus, hid]
  refine ⟨⟨_, rfl⟩, .valueError "Invalid control character", ?_⟩
  show summarizePrinted limit (remoteStatusCommand w inbox requestId) = _
  rw [summarizePrinted, remoteStatusCommand, loads_line hsafe hline]

theorem summarizePrinted_name (h : IsName requestId) {status : SubmissionStatus} :
    summarizePrinted limit ⟨"\"" ++ requestId ++ "\"", status⟩ = .ok status := by
  rw [summarizePrinted, loads_literal h]
  dsimp only
  rw [h.safeRequestId]
  rfl

end Literals

/-! ## Where the ids are -/

/-- Where the last submission of each id is. -/
abbrev Placement := String → Option (RequestStatus × Submitted)

def Placement.set (a : Placement) (requestId : String) (status : RequestStatus) (file : Submitted) : Placement :=
  fun other => if other = requestId then some (status, file) else a other

def Placement.status (a : Placement) (requestId : String) : SubmissionStatus :=
  match a requestId with
  | some (status, _) => .found status
  | none => .missing

/-- The files and reports of an inbox are those of a placement. -/
structure Places (py : Builtins) (inbox : List String) (a : Placement) (w : InboxWorld Submitted) : Prop where
  name : ∀ id status file, a id = some (status, file) → IsName id
  bundle : ∀ id status file, a id = some (status, file) → ∃ uuid, bundleRequestId py file.fields uuid = id
  there : ∀ id status file, a id = some (status, file) →
    w.file (submissionPath (statusFolder inbox status) id).names = some file
  only : ∀ path file, w.file path = some file →
    ∃ id status, a id = some (status, file) ∧ path = (submissionPath (statusFolder inbox status) id).names
  report : ∀ id, IsName id → (w.report (reportPath (inbox ++ ["reports"]) id .report) = true ↔
    ∃ file, a id = some (.processed, file))
  reports : ∀ path, w.report path = true → ∃ name, path = inbox ++ ["reports"] ++ [name]

namespace Places

variable {py : Builtins} {inbox : List String} {a : Placement} {w : InboxWorld Submitted} {requestId : String}
  {status : RequestStatus} {file : Submitted} {limit : ℕ}

theorem there_submission (h : Places py inbox a w) :
    w.there (submissionPath (statusFolder inbox status) requestId).names = true ↔
      ∃ file, a requestId = some (status, file) := by
  rw [InboxWorld.there, Bool.or_eq_true, Option.isSome_iff_exists]
  constructor
  · rintro (hreport | ⟨file, hfile⟩)
    · obtain ⟨name, hname⟩ := h.reports _ hreport
      exact absurd (List.append_inj' hname rfl).1.symm (reports_ne_statusFolder status)
    · obtain ⟨id, status', ha, hpath⟩ := h.only _ _ hfile
      obtain ⟨hfolder, rfl⟩ := submissionPath_inj.mp hpath
      obtain rfl := statusFolder_inj.mp hfolder
      exact ⟨file, ha⟩
  · rintro ⟨file, ha⟩
    exact .inr ⟨file, h.there _ _ _ ha⟩

theorem file_report (h : Places py inbox a w) (hname : IsName requestId) (kind : ReportKind) :
    w.file (reportPath (inbox ++ ["reports"]) requestId kind) = none := by
  rw [Option.eq_none_iff_forall_ne_some]
  intro file hfile
  obtain ⟨id, status, -, hpath⟩ := h.only _ _ hfile
  rw [reportPath_name hname] at hpath
  exact reports_ne_statusFolder status (List.append_inj' hpath rfl).1

theorem there_report (h : Places py inbox a w) (hname : IsName requestId) :
    w.there (reportPath (inbox ++ ["reports"]) requestId .report) = true ↔
      ∃ file, a requestId = some (.processed, file) := by
  rw [InboxWorld.there, h.file_report hname, Option.isSome_none, Bool.or_false, h.report _ hname]

/-- In whatever order the folders are looked into, the first status is that of the placement. -/
theorem firstStatus_eq (h : Places py inbox a w) (hname : IsName requestId) {order : List RequestStatus}
    (horder : ∀ status, status ∈ order) : firstStatus w inbox requestId order = a.status requestId := by
  rw [firstStatus, Placement.status]
  cases ha : a requestId with
  | none =>
    have hreport := (h.there_report hname).not.mpr (by simp [ha])
    have hnone : order.find? (fun status => w.there (submissionPath (statusFolder inbox status) requestId).names) =
        none := List.find?_eq_none.mpr fun status _ => h.there_submission.not.mpr (by simp [ha])
    rw [if_neg hreport, hnone]
  | some placed =>
    obtain ⟨status, file⟩ := placed
    split
    · next hreport =>
      obtain ⟨file', ha'⟩ := (h.there_report hname).mp hreport
      obtain ⟨rfl, -⟩ := Prod.mk.inj (Option.some.inj (ha.symm.trans ha'))
      rfl
    · cases hfind : order.find? fun status => w.there (submissionPath (statusFolder inbox status) requestId).names with
      | none => exact absurd (h.there_submission.mpr ⟨file, ha⟩) (List.find?_eq_none.mp hfind status (horder status))
      | some first =>
        have hfirst : w.there (submissionPath (statusFolder inbox first) requestId).names = true := by
          simpa using List.find?_some hfind
        obtain ⟨file', ha'⟩ := h.there_submission.mp hfirst
        obtain ⟨rfl, -⟩ := Prod.mk.inj (Option.some.inj (ha.symm.trans ha'))
        rfl

theorem getSubmissionStatus_eq (h : Places py inbox a w) (hname : IsName requestId) :
    getSubmissionStatus w inbox requestId = .ok (a.status requestId) := by
  have horder (status : RequestStatus) : status ∈ [.pending, .processing, .processed, .failed] := by
    cases status <;> decide
  rw [getSubmissionStatus, hname.safeRequestId, ← h.firstStatus_eq hname horder]
  rfl

theorem getRemoteSubmissionStatus_eq (h : Places py inbox a w) (hname : IsName requestId) :
    getRemoteSubmissionStatus w inbox requestId limit = .ok (a.status requestId) := by
  have horder (status : RequestStatus) : status ∈ [.processed, .processing, .failed, .pending] := by
    cases status <;> decide
  rw [getRemoteSubmissionStatus, hname.safeRequestId, ← h.firstStatus_eq hname horder]
  exact summarizePrinted_name hname

/-! ### Changes of a placement -/

theorem set_self : a.set requestId status file requestId = some (status, file) := if_pos rfl

theorem set_of_ne {other : String} (hne : other ≠ requestId) : a.set requestId status file other = a other := if_neg hne

/-- An id has come to a place, and the others are where they were. -/
theorem set {w' : InboxWorld Submitted} (h : Places py inbox a w) (hname : IsName requestId)
    (hbundle : ∃ uuid, bundleRequestId py file.fields uuid = requestId)
    (hfile : ∀ path found, w'.file path = some found ↔
      path = (submissionPath (statusFolder inbox status) requestId).names ∧ found = file ∨
        w.file path = some found ∧ ∀ status, path ≠ (submissionPath (statusFolder inbox status) requestId).names)
    (hreport : w'.report (reportPath (inbox ++ ["reports"]) requestId .report) = true ↔ status = .processed)
    (hothers : ∀ other ≠ requestId, IsName other → w'.report (reportPath (inbox ++ ["reports"]) other .report) =
      w.report (reportPath (inbox ++ ["reports"]) other .report))
    (hreports : ∀ path, w'.report path = true → ∃ name, path = inbox ++ ["reports"] ++ [name]) :
    Places py inbox (a.set requestId status file) w' where
  name id status' file' ha := by
    by_cases hid : id = requestId
    · exact hid ▸ hname
    · exact h.name id status' file' ((set_of_ne hid).symm.trans ha)
  bundle id status' file' ha := by
    by_cases hid : id = requestId
    · subst hid
      obtain ⟨-, rfl⟩ := Prod.mk.inj (Option.some.inj (set_self.symm.trans ha))
      exact hbundle
    · exact h.bundle id status' file' ((set_of_ne hid).symm.trans ha)
  there id status' file' ha := by
    rw [hfile]
    by_cases hid : id = requestId
    · subst hid
      obtain ⟨rfl, rfl⟩ := Prod.mk.inj (Option.some.inj (set_self.symm.trans ha))
      exact .inl ⟨rfl, rfl⟩
    · have hold := h.there id status' file' ((set_of_ne hid).symm.trans ha)
      exact .inr ⟨hold, fun _ heq => hid (submissionPath_inj.mp heq).2⟩
  only path found hfound := by
    rcases (hfile path found).mp hfound with ⟨hpath, rfl⟩ | ⟨hold, hpath⟩
    · exact ⟨requestId, status, set_self, hpath⟩
    · obtain ⟨id, status', ha, rfl⟩ := h.only path found hold
      have hid : id ≠ requestId := fun hid => hpath status' (by rw [hid])
      exact ⟨id, status', (set_of_ne hid).trans ha, rfl⟩
  report id hid := by
    by_cases heq : id = requestId
    · subst heq
      rw [hreport, set_self]
      simp
    · rw [hothers id heq hid, set_of_ne heq, h.report id hid]
  reports := hreports

theorem empty : Places py inbox (fun _ => none) InboxHistory.empty.world where
  name _ _ _ ha := nomatch ha
  bundle _ _ _ ha := nomatch ha
  there _ _ _ ha := nomatch ha
  only _ _ hfile := nomatch hfile
  report _ _ := ⟨fun h => absurd h Bool.false_ne_true, fun ⟨_, ha⟩ => nomatch ha⟩
  reports _ hreport := absurd hreport Bool.false_ne_true

/-- A submission of an id that has not left the inbox is there, over an earlier one. -/
theorem submit {h : InboxHistory} (hplaces : Places py inbox a h.world) {fields : List (String × Json)} {uuid : String}
    (hid : bundleRequestId py fields uuid = requestId) (hname : IsName requestId)
    (hmay : Submits inbox h.world requestId) :
    Places py inbox (a.set requestId .pending ⟨fields, h.count⟩) (h.submit inbox requestId fields).world := by
  have hpending (path : List String) (found : Submitted) (hfound : h.world.file path = some found)
      (hne : path ≠ (submissionPath inbox requestId).names) (status : RequestStatus) :
      path ≠ (submissionPath (statusFolder inbox status) requestId).names := by
    rintro rfl
    by_cases hstatus : status = .pending
    · exact hne (by rw [hstatus]; rfl)
    · have hthere := hmay.inInbox status hstatus
      rw [InboxWorld.there, hfound, Option.isSome_some, Bool.or_true] at hthere
      exact absurd hthere (by decide)
  have hreport := hmay.report
  rw [InboxWorld.there, hplaces.file_report hname, Option.isSome_none, Bool.or_false] at hreport
  refine hplaces.set hname ⟨uuid, hid⟩ (fun path found => ?_) ?_ (fun _ _ _ => rfl) hplaces.reports
  · show (if path = (submissionPath inbox requestId).names then some _ else h.world.file path) = some found ↔ _
    by_cases hpath : path = (submissionPath inbox requestId).names
    · rw [if_pos hpath, Option.some.injEq]
      constructor
      · rintro rfl
        exact .inl ⟨hpath, rfl⟩
      · rintro (⟨-, rfl⟩ | ⟨-, hne⟩)
        · rfl
        · exact absurd hpath (hne .pending)
    · rw [if_neg hpath]
      constructor
      · exact fun hfound => .inr ⟨hfound, hpending path found hfound hpath⟩
      · rintro (⟨heq, -⟩ | ⟨hfound, -⟩)
        · exact absurd heq hpath
        · exact hfound
  · show h.world.report _ = true ↔ _
    rw [hreport]
    simp

end Places

/-! ## A run -/

section Run

variable {py : Builtins} {inbox : List String} {a : Placement} {w w' : InboxWorld Submitted} {requestId : String}
  {status : RequestStatus} {file : Submitted} {folders : InboxFolders}

theorem InboxFolders.Default.submissions_eq (h : folders.Default inbox) :
    folders.submissions = [.pending, .processing, .processed, .failed].map (statusFolder inbox) := by
  rw [InboxFolders.submissions, InboxFolders.processing, h.inbox_eq, h.processed_eq, h.failed_eq]
  rfl

theorem InboxFolders.Default.mem_submissions (h : folders.Default inbox) {folder : List String} :
    folder ∈ folders.submissions ↔ ∃ status, folder = statusFolder inbox status := by
  rw [h.submissions_eq, List.mem_map]
  constructor
  · rintro ⟨status, -, rfl⟩
    exact ⟨status, rfl⟩
  · rintro ⟨status, rfl⟩
    exact ⟨status, by cases status <;> decide, rfl⟩

theorem InboxFolders.Default.nodup (h : folders.Default inbox) : folders.submissions.Nodup := by
  rw [h.submissions_eq]
  exact List.Nodup.map (fun _ _ heq => statusFolder_inj.mp heq) (by decide)

theorem InboxFolders.Default.ending_folder (h : folders.Default inbox) (ending : Ending) :
    ending.folder folders = statusFolder inbox ending.status := by
  cases ending
  · exact h.processed_eq
  · exact h.failed_eq
  · exact h.failed_eq

/-- A status whose folder a run looks into -/
def Awaits (status : RequestStatus) : Prop := status = .pending ∨ status = .processing

theorem InboxFolders.Default.awaits_iff (h : folders.Default inbox) :
    statusFolder inbox status = folders.inbox ∨ statusFolder inbox status = folders.processing ↔ Awaits status := by
  have hinbox : folders.inbox = statusFolder inbox .pending := h.inbox_eq
  have hprocessing : folders.processing = statusFolder inbox .processing := by
    rw [InboxFolders.processing, h.inbox_eq]
    rfl
  rw [hinbox, hprocessing, statusFolder_inj, statusFolder_inj, Awaits]

/-- The index knows a submission by the id that it was submitted with. -/
theorem requestIdOf_submitted {uuid : String} (hid : bundleRequestId py file.fields uuid = requestId)
    (hname : IsName requestId) : requestIdOf py readsSubmitted (requestId ++ ".json") file = requestId := by
  show submissionRequestId py (requestId ++ ".json") (.ofFields file.fields) = requestId
  rw [submissionRequestId]
  rw [bundleRequestId] at hid
  split
  · next heq =>
    rw [heq] at hid
    exact hid
  · exact pathStem_submissionPath hname.ne

namespace Places

theorem ready (h : Places py inbox a w) (hdefault : folders.Default inbox)
    (ha : a requestId = some (status, file)) (hawaits : Awaits status) :
    Ready folders w (submissionPath (statusFolder inbox status) requestId) file requestId where
  there := h.there _ _ _ ha
  folder := hdefault.awaits_iff.mpr hawaits
  apart := hdefault.nodup
  free folder hmem _ hne := by
    obtain ⟨status', rfl⟩ := hdefault.mem_submissions.mp hmem
    rw [Option.eq_none_iff_forall_ne_some]
    intro file' hfile'
    obtain ⟨id, status'', ha', hpath⟩ := h.only _ _ hfile'
    obtain ⟨hfolder, rfl⟩ := submissionPath_inj.mp hpath
    obtain rfl := statusFolder_inj.mp hfolder
    obtain ⟨rfl, -⟩ := Prod.mk.inj (Option.some.inj (ha.symm.trans ha'))
    exact hne rfl
  reports kind := by
    have hname := h.name _ _ _ ha
    rw [hdefault.reports_eq]
    refine ⟨h.file_report hname kind, fun folder hmem heq => ?_⟩
    obtain ⟨status', rfl⟩ := hdefault.mem_submissions.mp hmem
    rw [reportPath_name hname] at heq
    exact reports_ne_statusFolder status' (List.append_inj' heq rfl).1

/-- A file that was settled with an accepted draft has come to its folder, and has a report when it is processed. -/
theorem settled (h : Places py inbox a w) (hdefault : folders.Default inbox)
    (ha : a requestId = some (status, file)) (hawaits : Awaits status) {ending : Ending} {result : InboxResult}
    (hsettled : Settled folders w (submissionPath (statusFolder inbox status) requestId) file requestId ending result
      w') (hrefused : ending ≠ .refused) : Places py inbox (a.set requestId ending.status file) w' := by
  have hname := h.name _ _ _ ha
  have hfile := hsettled.held.file
  have hreport := hsettled.held.report
  rw [hdefault.ending_folder] at hfile
  rw [hdefault.reports_eq] at hreport
  refine h.set hname (h.bundle _ _ _ ha) (fun path found => ?_) ?_ (fun other hne hother => ?_) (fun path hpath => ?_)
  · rw [hfile]
    have hleft (hfound : w.file path = some found)
        (hold : path ≠ (submissionPath (statusFolder inbox status) requestId).names) (status' : RequestStatus) :
        path ≠ (submissionPath (statusFolder inbox status') requestId).names := by
      rintro rfl
      obtain ⟨id, status'', ha', hpath⟩ := h.only _ _ hfound
      obtain ⟨hfolder, rfl⟩ := submissionPath_inj.mp hpath
      obtain rfl := statusFolder_inj.mp hfolder
      obtain ⟨rfl, -⟩ := Prod.mk.inj (Option.some.inj (ha.symm.trans ha'))
      exact hold rfl
    split
    · next hdest =>
      rw [Option.some.injEq]
      constructor
      · rintro rfl
        exact .inl ⟨hdest, rfl⟩
      · rintro (⟨-, rfl⟩ | ⟨-, hne⟩)
        · rfl
        · exact absurd hdest (hne ending.status)
    · next hdest =>
      split
      · next hold =>
        constructor
        · exact nofun
        · rintro (⟨heq, -⟩ | ⟨-, hne⟩)
          · exact absurd heq hdest
          · exact absurd hold (hne status)
      · next hold =>
        constructor
        · exact fun hfound => .inr ⟨hfound, hleft hfound hold⟩
        · rintro (⟨heq, -⟩ | ⟨hfound, -⟩)
          · exact absurd heq hdest
          · exact hfound
  · have hnone : w.report (reportPath (inbox ++ ["reports"]) requestId .report) = false := by
      rw [Bool.eq_false_iff, Ne, h.report _ hname, ha]
      rintro ⟨file', heq⟩
      obtain ⟨rfl, -⟩ := Prod.mk.inj (Option.some.inj heq)
      rcases hawaits with hstatus | hstatus <;> exact nomatch hstatus
    rw [hreport _ fun kind hkind => reportPath_kind_ne hkind, hnone]
    cases ending with
    | refused => exact absurd rfl hrefused
    | processed => simp [Ending.status]
    | failed => simp [Ending.status]
  · rw [hreport _ fun kind hkind => reportPath_kind_ne hkind]
    simp [reportPath_inj hname hother, hne]
  · by_cases hkind : ∃ kind ≠ .report, path = reportPath (inbox ++ ["reports"]) requestId kind
    · obtain ⟨kind, -, rfl⟩ := hkind
      exact ⟨_, reportPath_name hname kind⟩
    · rw [hreport _ fun kind hne heq => hkind ⟨kind, hne, heq⟩, Bool.or_eq_true, Bool.and_eq_true,
        decide_eq_true_eq, decide_eq_true_eq] at hpath
      rcases hpath with hpath | ⟨-, rfl⟩
      · exact h.reports _ hpath
      · exact ⟨_, reportPath_name hname .report⟩

end Places

/-! ### Many files -/

variable {env : Environment} {conv : Conversions} {world : Materialization} {alnum : Alphanumeric}
  {text : ActivationError → String} {automation : InboxAutomation}

/-- What a run makes of a placement: the ids keep their submissions, and results that are not ok are of failed ones. -/
structure Settles (py : Builtins) (inbox : List String) (a : Placement) (r : Except InboxError (List InboxResult))
    (w : InboxWorld Submitted) : Prop where
  places : ∃ a', Places py inbox a' w ∧ ∀ id, (a' id).map Prod.snd = (a id).map Prod.snd
  refused : ∀ results, r = .ok results → ∀ result ∈ results, result.ok = false →
    ∃ name, result.submission = statusFolder inbox .failed ++ [name]

theorem Placement.map_set (ha : a requestId = some (status, file)) (status' : RequestStatus) (id : String) :
    (a.set requestId status' file id).map Prod.snd = (a id).map Prod.snd := by
  by_cases hid : id = requestId
  · rw [hid, Places.set_self, ha]
    rfl
  · rw [Places.set_of_ne hid]

theorem Settled.failed {ending : Ending} {result : InboxResult} {path : InboxPath} (hdefault : folders.Default inbox)
    (h : Settled folders w path file requestId ending result w') (hok : result.ok = false) :
    ∃ name, result.submission = statusFolder inbox .failed ++ [name] := by
  refine ⟨path.name, ?_⟩
  rw [h.submission, hdefault.ending_folder]
  cases ending with
  | processed => exact nomatch h.ok.symm.trans hok
  | refused => rfl
  | failed => rfl

theorem wp_processFiles_places {paths : List InboxPath} (hplaces : Places py inbox a w)
    (hdefault : folders.Default inbox) (hnodup : paths.Nodup)
    (hpaths : ∀ path ∈ paths, ∃ id status file, a id = some (status, file) ∧ Awaits status ∧
      path = submissionPath (statusFolder inbox status) id) :
    (paths.mapM (processFile py env conv world alnum text folders automation)).wp
      (inboxProtocol readsSubmitted folders Accepts) (Settles py inbox a) w := by
  induction paths generalizing a w with
  | nil => exact ⟨⟨a, hplaces, fun _ => rfl⟩, by rintro _ ⟨⟩ _ hmem; exact absurd hmem List.not_mem_nil⟩
  | cons path paths ih =>
    obtain ⟨hnotMem, hnodup'⟩ := List.nodup_cons.mp hnodup
    obtain ⟨id, status, file, ha, hawaits, rfl⟩ := hpaths path List.mem_cons_self
    obtain ⟨uuid, hid⟩ := hplaces.bundle _ _ _ ha
    have hname := hplaces.name _ _ _ ha
    have hready := hplaces.ready hdefault ha hawaits
    have hrequestId : requestIdAt py readsSubmitted w (submissionPath (statusFolder inbox status) id) = id :=
      (requestIdAt_eq hready.there).trans (requestIdOf_submitted hid hname)
    have hready' : Ready folders w (submissionPath (statusFolder inbox status) id) file
        (requestIdAt py readsSubmitted w (submissionPath (statusFolder inbox status) id)) := by
      rw [hrequestId]
      exact hready
    refine wp_processFiles_cons (fun _ _ h => h.1) hready' (fun _ h => ⟨_, (Except.ok.inj h).symm⟩)
      fun result ending w' hsettled hrefused => ?_
    have hne : ending ≠ .refused := fun heq => by
      obtain ⟨_, _, _, haccepts⟩ := hrefused heq
      exact haccepts.2
    rw [hrequestId] at hsettled
    have hplaces' := hplaces.settled hdefault ha hawaits hsettled hne
    have hpaths' (path) (hpath : path ∈ paths) : ∃ id' status' file',
        a.set id ending.status file id' = some (status', file') ∧ Awaits status' ∧
          path = submissionPath (statusFolder inbox status') id' := by
      obtain ⟨id', status', file', ha', hawaits', rfl⟩ := hpaths path (List.mem_cons_of_mem _ hpath)
      refine ⟨id', status', file', (Places.set_of_ne ?_).trans ha', hawaits', rfl⟩
      rintro rfl
      obtain ⟨rfl, -⟩ := Prod.mk.inj (Option.some.inj (ha.symm.trans ha'))
      exact hnotMem hpath
    refine Prog.wp_mono (ih hplaces' hnodup' hpaths') ?_
    intro r w'' hsettles
    obtain ⟨a', hplaces'', hsame⟩ := hsettles.places
    have hsame' (other : String) : (a' other).map Prod.snd = (a other).map Prod.snd :=
      (hsame other).trans (Placement.map_set ha _ other)
    cases r with
    | error e => exact ⟨⟨a', hplaces'', hsame'⟩, nofun⟩
    | ok results =>
      refine ⟨⟨a', hplaces'', hsame'⟩, ?_⟩
      rintro _ ⟨⟩ result' hmem hok
      rcases List.mem_cons.mp hmem with rfl | hmem
      · exact hsettled.failed hdefault hok
      · exact hsettles.refused results rfl result' hmem hok

theorem wp_processInbox_places (hplaces : Places py inbox a w) (hdefault : folders.Default inbox) :
    (processInbox py env conv world alnum text folders automation).wp
      (inboxProtocol readsSubmitted folders Accepts) (Settles py inbox a) w := by
  have hstays (e : InboxError) : Settles py inbox a (.error e) w := ⟨⟨a, hplaces, fun _ => rfl⟩, nofun⟩
  refine Prog.wp_perform_bind.mpr ⟨trivial, fun r hr => ?_⟩
  match r with
  | .error e => exact hstays e
  | .ok catalog =>
    refine Prog.wp_perform_bind.mpr ⟨trivial, fun r hr => ?_⟩
    match r with
    | .error e => exact hstays e
    | .ok paths =>
      obtain ⟨hnodup, hmem⟩ := hr.1
      refine wp_processFiles_places hplaces hdefault hnodup fun path hpath => ?_
      obtain ⟨hfolder, hthere⟩ := (hmem path).mp hpath
      obtain ⟨file, hfile⟩ := Option.isSome_iff_exists.mp hthere
      obtain ⟨id, status, ha, hnames⟩ := hplaces.only _ _ hfile
      obtain rfl := InboxPath.names_inj.mp hnames
      exact ⟨id, status, file, ha, hdefault.awaits_iff.mp hfolder, rfl⟩

end Run

/-! ## Histories -/

section Histories

variable {py : Builtins} {inbox : List String} {a : Placement} {h h' : InboxHistory} {requestId : String} {limit : ℕ}
  {alnum : Alphanumeric} {text : ActivationError → String}

/-- Each submission is the last one of its id, and is where the placement says. -/
structure Kept (py : Builtins) (inbox : List String) (a : Placement) (h : InboxHistory) : Prop where
  places : Places py inbox a h.world
  latest : ∀ id, h.latest id = (a id).map fun placed => placed.2.serial
  below : ∀ id serial, h.latest id = some serial → serial < h.count
  apart : ∀ id other serial, h.latest id = some serial → h.latest other = some serial → id = other
  refused : ∀ result ∈ h.results, result.ok = false →
    ∃ name, result.submission = statusFolder inbox .failed ++ [name]

namespace Kept

theorem empty : Kept py inbox (fun _ => none) .empty where
  places := Places.empty
  latest _ := rfl
  below _ _ hlatest := nomatch hlatest
  apart _ _ _ hlatest := nomatch hlatest
  refused _ hmem := absurd hmem List.not_mem_nil

theorem submit (hkept : Kept py inbox a h) {fields : List (String × Json)} {uuid : String}
    (hid : bundleRequestId py fields uuid = requestId) (hname : IsName requestId)
    (hmay : Submits inbox h.world requestId) :
    Kept py inbox (a.set requestId .pending ⟨fields, h.count⟩) (h.submit inbox requestId fields) where
  places := hkept.places.submit hid hname hmay
  latest id := by
    show (if id = requestId then some h.count else h.latest id) = _
    by_cases heq : id = requestId
    · rw [if_pos heq, heq, Places.set_self]
      rfl
    · rw [if_neg heq, Places.set_of_ne heq, hkept.latest]
  below id serial hlatest := by
    change (if id = requestId then some h.count else h.latest id) = some serial at hlatest
    show serial < h.count + 1
    split at hlatest
    · obtain rfl := Option.some.inj hlatest
      exact Nat.lt_succ_self _
    · exact Nat.lt_succ_of_lt (hkept.below id serial hlatest)
  apart id other serial hlatest hother := by
    change (if id = requestId then some h.count else h.latest id) = some serial at hlatest
    change (if other = requestId then some h.count else h.latest other) = some serial at hother
    have hold (name : String) (hname : h.latest name = some serial) : serial ≠ h.count :=
      (hkept.below name serial hname).ne
    split at hlatest <;> split at hother
    · next hid hother' => exact hid.trans hother'.symm
    · exact absurd (Option.some.inj hlatest).symm (hold other hother)
    · exact absurd (Option.some.inj hother).symm (hold id hlatest)
    · exact hkept.apart id other serial hlatest hother
  refused := hkept.refused

theorem process (hkept : Kept py inbox a h) {r : Except InboxError (List InboxResult)} {w : InboxWorld Submitted}
    (hsettles : Settles py inbox a r w) : ∃ a', Kept py inbox a' (h.process r w) := by
  obtain ⟨a', hplaces, hsame⟩ := hsettles.places
  refine ⟨a', hplaces, fun id => ?_, hkept.below, hkept.apart, fun result hmem => ?_⟩
  · have hmap : (a' id).map (fun placed => placed.2.serial) = (a id).map fun placed => placed.2.serial := by
      rw [← Function.comp_def Submitted.serial Prod.snd, ← Option.map_map, ← Option.map_map, hsame]
    exact (hkept.latest id).trans hmap.symm
  · rcases List.mem_append.mp hmem with hold | hnew
    · exact hkept.refused result hold
    · cases r with
      | error e => exact absurd hnew List.not_mem_nil
      | ok results => exact hsettles.refused results rfl result hnew

theorem step (hkept : Kept py inbox a h)
    (hstep : HistoryStep py alnum text inbox (Submits inbox) Accepts h h') : ∃ a', Kept py inbox a' h' := by
  cases hstep with
  | submit fields uuid requestId hid hmay =>
    rw [safeRequestId] at hid
    split at hid
    · next hsafe =>
      obtain rfl := Except.ok.inj hid
      exact ⟨_, hkept.submit rfl (isName_of_safe hsafe hmay.line) hmay⟩
    · contradiction
  | process env conv world folders automation r w hdefault hrun =>
    exact hkept.process (hrun.wp (wp_processInbox_places hkept.places hdefault))

theorem run (hrun : Relation.ReflTransGen (HistoryStep py alnum text inbox (Submits inbox) Accepts) .empty h) :
    ∃ a, Kept py inbox a h := by
  induction hrun with
  | refl => exact ⟨_, Kept.empty⟩
  | tail _ hstep ih =>
    obtain ⟨a, hkept⟩ := ih
    exact hkept.step hstep

/-- A file with the serial of the last submission of an id is where the placement has the id. -/
theorem placed (hkept : Kept py inbox a h) {status : RequestStatus} {name : String} {file : Submitted}
    (hfile : h.world.file (statusFolder inbox status ++ [name]) = some file)
    (hlatest : h.latest requestId = some file.serial) : a requestId = some (status, file) := by
  obtain ⟨id, status', ha, hpath⟩ := hkept.places.only _ _ hfile
  obtain rfl := statusFolder_inj.mp (List.append_inj' hpath rfl).1
  have hid : h.latest id = some file.serial := by rw [hkept.latest, ha]; rfl
  rw [hkept.apart requestId id file.serial hlatest hid, ha]

theorem truthful (hkept : Kept py inbox a h) (hname : IsName requestId) : Truthful limit inbox h requestId where
  agree := ⟨_, hkept.places.getSubmissionStatus_eq hname, hkept.places.getRemoteSubmissionStatus_eq hname⟩
  folder serial hlatest status := by
    rw [hkept.places.getSubmissionStatus_eq hname, Except.ok.injEq, Placement.status]
    constructor
    · intro hstatus
      cases ha : a requestId with
      | none =>
        rw [ha] at hstatus
        exact nomatch hstatus
      | some placed =>
        obtain ⟨status', file⟩ := placed
        rw [ha] at hstatus
        obtain rfl := SubmissionStatus.found.inj hstatus
        have hserial := hkept.latest requestId
        rw [hlatest, ha] at hserial
        exact ⟨_, file, hkept.places.there _ _ _ ha, (Option.some.inj hserial).symm⟩
    · rintro ⟨name, file, hfile, rfl⟩
      rw [hkept.placed hfile hlatest]
  refused result hmem hok file hfile hlatest := by
    obtain ⟨name, hsubmission⟩ := hkept.refused result hmem hok
    rw [hsubmission] at hfile
    rw [hkept.places.getSubmissionStatus_eq hname, Placement.status, hkept.placed hfile hlatest]
    exact nofun

end Kept

/-- While no id comes back after it has left the inbox, no draft is rejected and the operations of the runs succeed,
the status of every id that ends in no line break is truthful. -/
theorem status_truthful
    (hrun : Relation.ReflTransGen (HistoryStep py alnum text inbox (Submits inbox) Accepts) .empty h)
    (hsafe : isSafeRequestId requestId = true) (hline : '\n' ∉ requestId.toList) :
    Truthful limit inbox h requestId := by
  obtain ⟨a, hkept⟩ := Kept.run hrun
  exact hkept.truthful (isName_of_safe hsafe hline)

end Histories

section Examples

def draftFields : List (String × Json) := [("request_id", .str "a")]

def belowInbox : InboxFolders where
  inbox := ["inbox"]
  processed := ["inbox", "processed"]
  failed := ["inbox", "failed"]
  reports := ["inbox", "reports"]
  output := ["recipes"]
  index := ["index.db"]
  config := none
  promotionWorkDir := none
  panopticon := ["panopticon"]
  state := ["state"]

theorem belowInbox_default : belowInbox.Default ["inbox"] := ⟨rfl, rfl, rfl, rfl⟩

def noLetters : Alphanumeric := ⟨fun _ => false, rfl⟩

/-- A submission that waits -/
theorem pending_truthful :
    Truthful 1000 ["inbox"] (InboxHistory.empty.submit ["inbox"] "a" draftFields) "a" := by
  have hstep : HistoryStep reviewBuiltins noLetters (fun _ => "") ["inbox"] (Submits ["inbox"]) Accepts .empty
      (InboxHistory.empty.submit ["inbox"] "a" draftFields) :=
    .submit draftFields "" "a" rfl ⟨by decide, rfl, fun _ _ => rfl⟩
  exact status_truthful (.single hstep) (by decide) (by decide)

/-- A draft that is rejected has failed, and its report makes it processed. -/
theorem rejected_processed : ¬ ∀ (h : InboxHistory) (requestId : String),
    Relation.ReflTransGen (HistoryStep reviewBuiltins noLetters (fun _ => "") ["inbox"] (fun _ _ => True)
      fun _ _ => True) .empty h →
    isSafeRequestId requestId = true → Truthful 1000 ["inbox"] h requestId := by
  intro h
  have hsubmit : HistoryStep reviewBuiltins noLetters (fun _ => "") ["inbox"] (fun _ _ => True) (fun _ _ => True)
      .empty (InboxHistory.empty.submit ["inbox"] "a" draftFields) :=
    .submit draftFields "" "a" rfl trivial
  have hends : (processInbox reviewBuiltins reviewEnvironment digitConversions draftsOnly noLetters (fun _ => "")
      belowInbox {}).MayEnd (inboxProtocol readsSubmitted belowInbox fun _ _ => True) (fun r w =>
        (∃ result, r = .ok [result] ∧ result.ok = false ∧ result.submission = ["inbox", "failed", "a.json"]) ∧
          w.file ["inbox", "failed", "a.json"] = some ⟨draftFields, 0⟩ ∧
          w.there (reportPath ["inbox", "reports"] "a" .report) = true)
      (InboxHistory.empty.submit ["inbox"] "a" draftFields).world := by
    refine .step (o := .ok ()) ⟨trivial, trivial⟩ ?_
    refine .step (o := .ok [submissionPath ["inbox"] "a"]) ?_ ?_
    · refine ⟨⟨List.nodup_singleton _, fun path => ?_⟩, trivial⟩
      show _ ↔ _ ∧ (if path.names = (submissionPath ["inbox"] "a").names then some (Submitted.mk draftFields 0)
        else none).isSome = true
      rw [List.mem_singleton]
      constructor
      · rintro rfl
        exact ⟨.inl rfl, by rw [if_pos rfl]; rfl⟩
      · rintro ⟨-, hthere⟩
        by_contra hne
        rw [if_neg (InboxPath.names_inj.not.mpr hne)] at hthere
        exact Bool.false_ne_true hthere
    refine .step (o := .ok (.obj draftFields)) ?_ ?_
    · exact ⟨⟨⟨draftFields, 0⟩, rfl, rfl⟩, trivial⟩
    refine .step (o := .ok ()) ⟨trivial, trivial⟩ ?_
    refine .step (o := .ok false) ⟨fun _ => rfl, trivial⟩ ?_
    refine .step (o := .ok ()) ⟨rfl, trivial⟩ ?_
    refine .step (o := .ok ()) ⟨trivial, trivial⟩ ?_
    refine .step (o := .ok (some "no draft")) ⟨trivial, trivial⟩ ?_
    refine .step (o := .ok ()) ⟨trivial, trivial⟩ ?_
    refine .step (o := .ok false) ⟨fun _ => rfl, trivial⟩ ?_
    refine .step (o := .ok ()) ⟨rfl, trivial⟩ ?_
    refine .step (o := .ok ()) ⟨trivial, trivial⟩ ?_
    exact .done ⟨⟨_, rfl, rfl, rfl⟩, rfl, by decide +kernel⟩
  obtain ⟨r, w, hrun, ⟨result, rfl, hok, hsubmission⟩, hfile, hreport⟩ := hends
  have hprocess : HistoryStep reviewBuiltins noLetters (fun _ => "") ["inbox"] (fun _ _ => True) (fun _ _ => True)
      (InboxHistory.empty.submit ["inbox"] "a" draftFields)
      ((InboxHistory.empty.submit ["inbox"] "a" draftFields).process (.ok [result]) w) :=
    .process reviewEnvironment digitConversions draftsOnly belowInbox {} _ _ belowInbox_default hrun
  have htruthful := h _ "a" (.tail (.single hsubmit) hprocess) (by decide)
  refine htruthful.refused result (List.mem_append_right _ (List.mem_singleton_self _)) hok ⟨draftFields, 0⟩ ?_ rfl ?_
  · rw [hsubmission]
    exact hfile
  · have hsafe : safeRequestId "a" = .ok "a" := rfl
    rw [getSubmissionStatus, hsafe]
    exact congrArg Except.ok (if_pos hreport)

end Examples

end Gpucall.Inbox
