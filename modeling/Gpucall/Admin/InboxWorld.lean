import Gpucall.Admin.InboxWrites

/-! The files and rows that `process_inbox` works on. A world says which submission is at which path, which
reports are there and what the index holds; a `Consistent` answer is one that a file system and a database
can give. Where a file is settled without trouble, `processFile_settles` says where it ends. -/

namespace Gpucall.Inbox

open Effects

/-! ## Worlds -/

/-- The submissions at their paths, the reports that are there, and the index. -/
structure InboxWorld (F : Type) where
  file : List String → Option F
  report : List String → Bool
  table : RequestTable

variable {F : Type}

namespace InboxWorld

/-- A file is renamed, over what is at the target. -/
def move (w : InboxWorld F) (source target : List String) : InboxWorld F :=
  { w with file := fun path =>
      if path = target then w.file source else if path = source then none else w.file path }

/-- A report is written, over a submission if one is there. -/
def addReport (w : InboxWorld F) (path : List String) : InboxWorld F :=
  { w with
    file := fun other => if other = path then none else w.file other
    report := fun other => other = path || w.report other }

/-- What a call that has returned leaves. The commands of the automation write no submission. -/
def after (w : InboxWorld F) : Event InboxCall InboxCall.Result InboxError → InboxWorld F
  | ⟨.move source target, .ok _⟩ => w.move source target
  | ⟨.writeReport path, .ok _⟩ => w.addReport path
  | ⟨.upsertPending metadata path, .ok _⟩ => { w with table := upsertPending w.table metadata path }
  | ⟨.markProcessing requestId path, .ok _⟩ => { w with table := markProcessing w.table requestId path }
  | ⟨.markTerminal requestId update, .ok _⟩ => { w with table := markTerminal w.table requestId update }
  | _ => w

end InboxWorld

/-- The folders that hold submissions -/
def InboxFolders.submissions (folders : InboxFolders) : List (List String) :=
  [folders.inbox, folders.processing, folders.processed, folders.failed]

section Answers

variable (reads : F → Except ActivationError Json) (folders : InboxFolders)

/-- The answer is true of the world, and an exception at most: `_load_json` alone exits. -/
def Consistent (w : InboxWorld F) : Event InboxCall InboxCall.Result InboxError → Prop
  | ⟨_, .error (.systemExit _)⟩ => False
  | ⟨_, .error (.exception _)⟩ => True
  | ⟨.load path, .ok value⟩ => ∃ file, w.file path.names = some file ∧ reads file = .ok value
  | ⟨.exists path, .ok there⟩ => path.dropLast ∈ folders.submissions → there = (w.file path).isSome
  | ⟨.move source _, .ok _⟩ => (w.file source).isSome
  | ⟨.listing, .ok paths⟩ => paths.Nodup ∧ ∀ path : InboxPath, path ∈ paths ↔
      (path.folder = folders.inbox ∨ path.folder = folders.processing) ∧ (w.file path.names).isSome
  | _ => True

/-- The operations on the files and on the index that the loop itself makes succeed. -/
def Works (w : InboxWorld F) : Event InboxCall InboxCall.Result InboxError → Prop
  | ⟨.load path, .error _⟩ => ∀ file, w.file path.names = some file → ∀ value, reads file ≠ .ok value
  | ⟨.exists _, .error _⟩ | ⟨.timeNs, .error _⟩ | ⟨.upsertPending .., .error _⟩ | ⟨.markProcessing .., .error _⟩
  | ⟨.markTerminal .., .error _⟩ => False
  | ⟨.move source _, .error _⟩ => w.file source = none
  | _ => True

/-- These operations succeed, and those before the loop. -/
def Succeeds (w : InboxWorld F) (e : Event InboxCall InboxCall.Result InboxError) : Prop :=
  Works reads w e ∧ match e with
    | ⟨.materializationCatalog, .error _⟩ | ⟨.listing, .error _⟩ => False
    | _ => True

/-- Calls are answered consistently, and as some condition wants it. -/
def inboxProtocol (also : InboxWorld F → Event InboxCall InboxCall.Result InboxError → Prop) :
    Protocol InboxCall InboxCall.Result InboxError (InboxWorld F) where
  pre _ _ := True
  allowed w e := Consistent reads folders w e ∧ also w e
  after := InboxWorld.after

end Answers

/-! ## Moves -/

namespace InboxPath

variable {path : InboxPath}

theorem names_inj {other : InboxPath} : path.names = other.names ↔ path = other := by
  refine ⟨fun h => ?_, fun h => h ▸ rfl⟩
  obtain ⟨hfolder, hname⟩ := List.append_inj' h rfl
  cases path
  cases other
  obtain rfl := hfolder
  obtain rfl := List.singleton_inj.mp hname
  rfl

@[simp] theorem dropLast_names : path.names.dropLast = path.folder := List.dropLast_concat

end InboxPath

/-! ## One file on its way -/

section Way

variable {folders : InboxFolders} {w₀ w : InboxWorld F} {path current : InboxPath} {file : F} {requestId : String}
  {reported : Bool}

/-- The world in which the file of one submission has come from its path to another one, and in which it may have
its report. -/
structure Held (folders : InboxFolders) (w₀ : InboxWorld F) (path : InboxPath) (file : F) (requestId : String)
    (current : InboxPath) (reported : Bool) (w : InboxWorld F) : Prop where
  file : ∀ other, w.file other =
    if other = current.names then some file else if other = path.names then none else w₀.file other
  report : ∀ other, (∀ kind ≠ .report, other ≠ reportPath folders.reports requestId kind) →
    w.report other = (w₀.report other || (reported && other = reportPath folders.reports requestId .report))
  row : ∀ other ≠ requestId, w.table.get? other = w₀.table.get? other

/-- Where a file may start: it is there, its places are free, and no report of it would be over a submission or at
one of its places. -/
structure Ready (folders : InboxFolders) (w₀ : InboxWorld F) (path : InboxPath) (file : F) (requestId : String) :
    Prop where
  there : w₀.file path.names = some file
  folder : path.folder = folders.inbox ∨ path.folder = folders.processing
  apart : folders.submissions.Nodup
  free : ∀ folder ∈ folders.submissions, folder ≠ folders.inbox → folder ≠ path.folder →
    w₀.file (folder ++ [path.name]) = none
  reports : ∀ kind, w₀.file (reportPath folders.reports requestId kind) = none ∧
    ∀ folder ∈ folders.submissions, reportPath folders.reports requestId kind ≠ folder ++ [path.name]

theorem Ready.folder_mem (h : Ready folders w₀ path file requestId) : path.folder ∈ folders.submissions := by
  rcases h.folder with h | h <;> simp [InboxFolders.submissions, h]

theorem Ready.held (h : Ready folders w₀ path file requestId) :
    Held folders w₀ path file requestId path false w₀ where
  file other := by
    split
    · next heq => rw [heq, h.there]
    · rfl
  report _ _ := by simp
  row _ _ := rfl

namespace Held

/-- No submission is where a report of the file goes. -/
theorem report_none (h : Held folders w₀ path file requestId current reported w)
    (hready : Ready folders w₀ path file requestId) (hcurrent : current.folder ∈ folders.submissions)
    (hname : current.name = path.name) (kind : ReportKind) :
    w.file (reportPath folders.reports requestId kind) = none := by
  obtain ⟨hnone, hplaces⟩ := hready.reports kind
  have hne : reportPath folders.reports requestId kind ≠ current.names := by
    rw [InboxPath.names, hname]
    exact hplaces _ hcurrent
  rw [h.file, if_neg hne, hnone, ite_self]

theorem addReport_file (h : Held folders w₀ path file requestId current reported w)
    (hready : Ready folders w₀ path file requestId) (hcurrent : current.folder ∈ folders.submissions)
    (hname : current.name = path.name) (kind : ReportKind) :
    (w.addReport (reportPath folders.reports requestId kind)).file = w.file := by
  funext other
  simp only [InboxWorld.addReport]
  split
  · next heq => rw [heq, h.report_none hready hcurrent hname]
  · rfl

/-- A report of another kind changes nothing that is followed. -/
theorem addOther (h : Held folders w₀ path file requestId current reported w)
    (hready : Ready folders w₀ path file requestId) (hcurrent : current.folder ∈ folders.submissions)
    (hname : current.name = path.name) {kind : ReportKind} (hkind : kind ≠ .report) :
    Held folders w₀ path file requestId current reported
      (w.addReport (reportPath folders.reports requestId kind)) where
  file other := by rw [h.addReport_file hready hcurrent hname, h.file]
  report other hother := by
    simp only [InboxWorld.addReport, hother kind hkind, decide_false, Bool.false_or, h.report other hother]
  row := h.row

theorem addReport (h : Held folders w₀ path file requestId current false w)
    (hready : Ready folders w₀ path file requestId) (hcurrent : current.folder ∈ folders.submissions)
    (hname : current.name = path.name) :
    Held folders w₀ path file requestId current true
      (w.addReport (reportPath folders.reports requestId .report)) where
  file other := by rw [h.addReport_file hready hcurrent hname, h.file]
  report other hother := by
    simp only [InboxWorld.addReport, h.report other hother, Bool.false_and, Bool.or_false, Bool.true_and]
    exact Bool.or_comm _ _
  row := h.row

theorem move (h : Held folders w₀ path file requestId current reported w) {target : InboxPath}
    (hcurrent : current = path ∨ w₀.file current.names = none) :
    Held folders w₀ path file requestId target reported (w.move current.names target.names) where
  file other := by
    simp only [InboxWorld.move, h.file, if_true]
    split
    · rfl
    split
    · next hother =>
      rcases hcurrent with rfl | hnone
      · rw [if_pos hother]
      · rw [hother, hnone, ite_self]
    · rfl
  report := h.report
  row := h.row

theorem setRow (h : Held folders w₀ path file requestId current reported w) {table : RequestTable}
    (htable : ∀ other ≠ requestId, table.get? other = w.table.get? other) :
    Held folders w₀ path file requestId current reported { w with table } where
  file := h.file
  report := h.report
  row other hother := (htable other hother).trans (h.row other hother)

end Held

/-! ## What the parts do -/

section Parts

variable {reads : F → Except ActivationError Json}
  {also : InboxWorld F → Event InboxCall InboxCall.Result InboxError → Prop}
  (hworks : ∀ w e, also w e → Works reads w e)

/-- An answer that is consistent raises at most an `Exception`. -/
theorem Consistent.isException {e : Event InboxCall InboxCall.Result InboxError} {error : InboxError}
    (h : Consistent reads folders w e) (herror : e.outcome = .error error) : error.IsException := by
  obtain ⟨op, outcome⟩ := e
  obtain rfl : outcome = .error error := herror
  cases error with
  | exception e => trivial
  | systemExit message => cases op <;> exact h

/-- A quiet call leaves the world as it is, up to a report of another kind. -/
theorem InboxWorld.after_quiet {op : InboxCall} (outcome : Except InboxError op.Result)
    (h : op.Quiet folders.reports requestId) : w.after ⟨op, outcome⟩ = w ∨
      ∃ kind ≠ .report, w.after ⟨op, outcome⟩ = w.addReport (reportPath folders.reports requestId kind) := by
  cases op <;> cases outcome <;>
    first
    | exact .inl rfl
    | exact absurd h id
    | obtain ⟨kind, hkind, rfl⟩ := h
      exact .inr ⟨kind, hkind, rfl⟩

/-- Quiet calls leave the file where it is. -/
theorem Held.wp_quiet {α : Type} {p : InboxProg α} (hp : Calls (InboxCall.Quiet folders.reports requestId) p)
    (h : Held folders w₀ path file requestId current reported w) (hready : Ready folders w₀ path file requestId)
    (hcurrent : current.folder ∈ folders.submissions) (hname : current.name = path.name) :
    p.wp (inboxProtocol reads folders also) (fun r w' =>
      Held folders w₀ path file requestId current reported w' ∧ ∀ error, r = .error error → error.IsException) w := by
  refine Prog.wp_mono (hp.keeps (I := Held folders w₀ path file requestId current reported) ?_ h) ?_
  · intro g op hop hheld
    refine ⟨trivial, fun r hr => ⟨?_, fun error herror => hr.1.isException herror⟩⟩
    obtain heq | ⟨kind, hkind, heq⟩ := InboxWorld.after_quiet (w := g) r hop
    · show Held _ _ _ _ _ _ _ (g.after ⟨op, r⟩)
      rwa [heq]
    · show Held _ _ _ _ _ _ _ (g.after ⟨op, r⟩)
      rw [heq]
      exact hheld.addOther hready hcurrent hname hkind
  · rintro r g' ⟨hheld, hr⟩
    refine ⟨hheld, ?_⟩
    rintro error rfl
    exact hr

/-- The id that a file is indexed under: the one that its submission gives, or the stem of its name. -/
def requestIdOf (py : Builtins) (reads : F → Except ActivationError Json) (name : String) (file : F) : String :=
  match reads file with
  | .ok (.obj fields) => submissionRequestId py name (.ofFields fields)
  | _ => pathStem name

/-- How a file ends. -/
inductive Ending where
  | processed
  /-- Its draft is rejected, with a report. -/
  | refused
  | failed
  deriving DecidableEq

def Ending.folder (folders : InboxFolders) : Ending → List String
  | processed => folders.processed
  | refused | failed => folders.failed

def Ending.status : Ending → RequestStatus
  | processed => .processed
  | refused | failed => .failed

/-- A file has ended: it is in its folder, and the index and the result say so. -/
structure Settled (folders : InboxFolders) (w₀ : InboxWorld F) (path : InboxPath) (file : F) (requestId : String)
    (ending : Ending) (result : InboxResult) (w : InboxWorld F) : Prop where
  held : Held folders w₀ path file requestId ⟨ending.folder folders, path.name⟩ (ending ≠ .failed) w
  row : ∃ row, w.table.get? requestId = some row ∧ row.status = ending.status ∧
    row.originalPath = ending.folder folders ++ [path.name]
  submission : result.submission = ending.folder folders ++ [path.name]
  ok : result.ok = decide (ending = .processed)

/-- Where a file is before it ends, with the variables of the loop. -/
structure Midway (folders : InboxFolders) (w₀ : InboxWorld F) (path : InboxPath) (file : F) (requestId : String)
    (vars : InboxVars) (reported : Bool) (w : InboxWorld F) : Prop where
  requestId_eq : vars.requestId = requestId
  name : vars.currentPath.name = path.name
  place : vars.currentPath = path ∨ path.folder = folders.inbox ∧ vars.currentPath.folder = folders.processing
  held : Held folders w₀ path file requestId vars.currentPath reported w

theorem InboxFolders.inbox_mem : folders.inbox ∈ folders.submissions := by simp [InboxFolders.submissions]

theorem InboxFolders.processing_mem : folders.processing ∈ folders.submissions := by
  simp [InboxFolders.submissions]

theorem InboxFolders.processing_ne_inbox (hapart : folders.submissions.Nodup) :
    folders.processing ≠ folders.inbox := by
  simp only [InboxFolders.submissions, List.nodup_cons, List.mem_cons, not_or] at hapart
  exact Ne.symm hapart.1.1

theorem Ending.folder_mem (ending : Ending) : ending.folder folders ∈ folders.submissions := by
  cases ending <;> simp [Ending.folder, InboxFolders.submissions]

/-- The folders where files end are not those where they start. -/
theorem Ending.folder_ne (hapart : folders.submissions.Nodup) (ending : Ending) :
    ending.folder folders ≠ folders.inbox ∧ ending.folder folders ≠ folders.processing := by
  simp only [InboxFolders.submissions, List.nodup_cons, List.mem_cons, List.not_mem_nil, or_false, not_or] at hapart
  obtain ⟨⟨-, hinbox, hinbox'⟩, ⟨hprocessing, hprocessing'⟩, -⟩ := hapart
  cases ending
  · exact ⟨Ne.symm hinbox, Ne.symm hprocessing⟩
  · exact ⟨Ne.symm hinbox', Ne.symm hprocessing'⟩
  · exact ⟨Ne.symm hinbox', Ne.symm hprocessing'⟩

namespace Midway

variable {vars : InboxVars}

theorem folder_mem (h : Midway folders w₀ path file requestId vars reported w)
    (hready : Ready folders w₀ path file requestId) : vars.currentPath.folder ∈ folders.submissions := by
  obtain heq | ⟨-, heq⟩ := h.place
  · exact heq ▸ hready.folder_mem
  · exact heq ▸ InboxFolders.processing_mem

theorem current_free (h : Midway folders w₀ path file requestId vars reported w)
    (hready : Ready folders w₀ path file requestId) :
    vars.currentPath = path ∨ w₀.file vars.currentPath.names = none := by
  refine h.place.imp id fun ⟨hinbox, hprocessing⟩ => ?_
  have hne := InboxFolders.processing_ne_inbox hready.apart
  rw [InboxPath.names, hprocessing, h.name]
  exact hready.free _ InboxFolders.processing_mem hne (hinbox ▸ hne)

theorem ending_free (h : Midway folders w₀ path file requestId vars reported w)
    (hready : Ready folders w₀ path file requestId) (ending : Ending) :
    ending.folder folders ≠ path.folder ∧ ending.folder folders ≠ vars.currentPath.folder ∧
      w₀.file (ending.folder folders ++ [vars.currentPath.name]) = none := by
  obtain ⟨hinbox, hprocessing⟩ := ending.folder_ne hready.apart
  have hpath : ending.folder folders ≠ path.folder := by
    rcases hready.folder with heq | heq
    · exact heq ▸ hinbox
    · exact heq ▸ hprocessing
  refine ⟨hpath, ?_, h.name ▸ hready.free _ ending.folder_mem hinbox hpath⟩
  obtain heq | ⟨-, heq⟩ := h.place
  · exact heq ▸ hpath
  · exact heq ▸ hprocessing

end Midway

include hworks

/-- A file that is there is moved to a place that is free. -/
theorem Held.wp_moveSubmission (h : Held folders w₀ path file requestId current reported w)
    (hcurrent : current = path ∨ w₀.file current.names = none) {folder : List String}
    (hfolder : folder ∈ folders.submissions) (hne : folder ≠ path.folder) (hne' : folder ≠ current.folder)
    (hfree : w₀.file (folder ++ [current.name]) = none) :
    (moveSubmission current ⟨folder, current.name⟩).wp (inboxProtocol reads folders also) (fun r w' =>
      r = .ok ⟨folder, current.name⟩ ∧
        Held folders w₀ path file requestId ⟨folder, current.name⟩ reported w') w := by
  have hthere : w.file current.names = some file := by rw [h.file, if_pos rfl]
  have hempty : w.file (InboxPath.mk folder current.name).names = none := by
    rw [h.file, if_neg, if_neg]
    · exact hfree
    · exact fun heq => hne (congrArg InboxPath.folder (InboxPath.names_inj.mp heq))
    · exact fun heq => hne' (congrArg InboxPath.folder (InboxPath.names_inj.mp heq))
  rw [moveSubmission, uniqueDestination, bind_assoc, Prog.wp_perform_bind]
  refine ⟨trivial, fun r hr => ?_⟩
  match r with
  | .error e => exact absurd (hworks _ _ hr.2) id
  | .ok there =>
    obtain rfl : there = false := by
      have hanswer : there = _ := hr.1 (by rw [InboxPath.dropLast_names]; exact hfolder)
      rw [hanswer, hempty]
      rfl
    show (inboxCall (.move current.names _) >>= fun _ => pure _ : InboxProg InboxPath).wp _ _ _
    rw [Prog.wp_perform_bind]
    refine ⟨trivial, fun r hr => ?_⟩
    match r with
    | .error e =>
      have hnone : w.file current.names = none := hworks _ _ hr.2
      rw [hthere] at hnone
      contradiction
    | .ok () => exact ⟨rfl, h.move hcurrent⟩

/-- The file of the variables is moved to a free place. -/
theorem Midway.wp_moveCurrent {vars : InboxVars} (h : Midway folders w₀ path file requestId vars reported w)
    (hready : Ready folders w₀ path file requestId) {folder : List String}
    (hfolder : folder ∈ folders.submissions) (hne : folder ≠ path.folder)
    (hne' : folder ≠ vars.currentPath.folder) (hfree : w₀.file (folder ++ [vars.currentPath.name]) = none) :
    (moveCurrent folder).wp (inboxProtocol reads folders also) (fun r vars' w' =>
      r = .ok ⟨folder, path.name⟩ ∧ vars' = { vars with currentPath := ⟨folder, path.name⟩ } ∧
        Held folders w₀ path file requestId ⟨folder, path.name⟩ reported w') vars w := by
  rw [moveCurrent, Local.wp_read_bind, Local.wp_bind, Local.liftM_eq_ofProg, Local.wp_ofProg]
  refine Prog.wp_mono
    (h.held.wp_moveSubmission hworks (h.current_free hready) hfolder hne hne' hfree) ?_
  rintro r w' ⟨rfl, hheld⟩
  rw [h.name] at hheld ⊢
  exact Local.wp_write_bind.mpr (Local.wp_pure.mpr ⟨rfl, rfl, hheld⟩)

omit hworks in
/-- The row of the file is marked with how it ends. -/
theorem Held.settled {ending : Ending} {update : TerminalUpdate} {result : InboxResult}
    (h : Held folders w₀ path file requestId ⟨ending.folder folders, path.name⟩ (ending ≠ .failed) w)
    (hstatus : update.status = ending.status)
    (hpath : update.originalPath = ending.folder folders ++ [path.name])
    (hsubmission : result.submission = ending.folder folders ++ [path.name])
    (hok : result.ok = decide (ending = .processed)) :
    Settled folders w₀ path file requestId ending result
      { w with table := markTerminal w.table requestId update } where
  held := h.setRow fun _ hother => get?_markTerminal_of_ne hother
  row := by
    obtain ⟨row, hrow, hrowStatus, hrowPath⟩ := @get?_markTerminal_self w.table requestId update
    exact ⟨row, hrow, hrowStatus.trans hstatus, hrowPath.trans hpath⟩
  submission := hsubmission
  ok := hok

/-- The file of the variables is moved to where it ends, and its row is marked. -/
theorem Midway.wp_settle {vars : InboxVars} {ending : Ending}
    (h : Midway folders w₀ path file requestId vars (ending ≠ .failed) w)
    (hready : Ready folders w₀ path file requestId) {update : InboxPath → TerminalUpdate}
    {result : InboxPath → InboxResult}
    (hupdate : ∀ destination, (update destination).status = ending.status ∧
      (update destination).originalPath = destination.names)
    (hresult : ∀ destination, (result destination).submission = destination.names ∧
      (result destination).ok = decide (ending = .processed)) :
    (do
      let destination ← moveCurrent (ending.folder folders)
      inboxCall (.markTerminal requestId (update destination))
      return result destination : InboxLocal InboxResult).wp (inboxProtocol reads folders also)
      (fun r _ w' => ∃ result, r = .ok result ∧
        Settled folders w₀ path file requestId ending result w') vars w := by
  obtain ⟨hne, hne', hfree⟩ := h.ending_free hready ending
  rw [Local.wp_bind]
  refine Local.wp_mono (h.wp_moveCurrent hworks hready ending.folder_mem hne hne' hfree) ?_
  rintro r vars' w' ⟨rfl, -, hheld⟩
  refine Local.wp_perform_bind.mpr ⟨trivial, fun r hr => ?_⟩
  match r with
  | .error e => exact absurd (hworks _ _ hr.2) id
  | .ok () =>
    exact Local.wp_pure.mpr ⟨_, rfl, hheld.settled (hupdate _).1 (hupdate _).2 (hresult _).1
      (hresult _).2⟩

/-- What the body of the loop leaves: a file that has ended, or one that its handler finds on its way. -/
def BodyPost (folders : InboxFolders) (also : InboxWorld F → Event InboxCall InboxCall.Result InboxError → Prop)
    (w₀ : InboxWorld F) (path : InboxPath) (file : F) (requestId : String) :
    Except InboxError InboxResult → InboxVars → InboxWorld F → Prop
  | .ok result, _, w => ∃ ending, Settled folders w₀ path file requestId ending result w ∧
      (ending = .refused → ∃ w submission reasons, also w ⟨.validateDraft submission, .ok (some reasons)⟩)
  | .error e, vars, w => e.IsException ∧ Midway folders w₀ path file requestId vars false w

/-- A report is written, and the file goes where it ends. -/
theorem Midway.wp_report {vars : InboxVars} (h : Midway folders w₀ path file requestId vars false w)
    (hready : Ready folders w₀ path file requestId) (ending : Ending) (hending : ending ≠ .failed)
    (hrefused : ending = .refused →
      ∃ w submission reasons, also w ⟨.validateDraft submission, .ok (some reasons)⟩)
    {update : InboxPath → TerminalUpdate} {result : InboxPath → InboxResult}
    (hupdate : ∀ destination, (update destination).status = ending.status ∧
      (update destination).originalPath = destination.names)
    (hresult : ∀ destination, (result destination).submission = destination.names ∧
      (result destination).ok = decide (ending = .processed)) :
    (do
      writeReport folders requestId .report
      let destination ← moveCurrent (ending.folder folders)
      inboxCall (.markTerminal requestId (update destination))
      return result destination : InboxLocal InboxResult).wp (inboxProtocol reads folders also)
      (BodyPost folders also w₀ path file requestId) vars w := by
  refine Local.wp_perform_bind.mpr ⟨trivial, fun r hr => ?_⟩
  match r with
  | .error e => exact ⟨hr.1.isException rfl, h⟩
  | .ok () =>
    have hreported : Midway folders w₀ path file requestId vars (ending ≠ .failed)
        (w.addReport (reportPath folders.reports requestId .report)) := by
      rw [decide_eq_true hending]
      exact { h with held := h.held.addReport hready (h.folder_mem hready) h.name }
    refine Local.wp_mono (hreported.wp_settle hworks hready hupdate hresult) ?_
    rintro r vars' w' ⟨result, rfl, hsettled⟩
    exact ⟨ending, hsettled, hrefused⟩

variable {alnum : Alphanumeric} {automation : InboxAutomation} {py : Builtins} {env : Environment}
  {conv : Conversions} {world : Materialization} {text : ActivationError → String}

theorem Midway.wp_rejectDraft {vars : InboxVars} (h : Midway folders w₀ path file requestId vars false w)
    (hready : Ready folders w₀ path file requestId) {reasons : String}
    (hrefused : ∃ w submission reasons, also w ⟨.validateDraft submission, .ok (some reasons)⟩) :
    (rejectDraft folders requestId reasons).wp (inboxProtocol reads folders also)
      (BodyPost folders also w₀ path file requestId) vars w :=
  h.wp_report hworks hready .refused nofun (fun _ => hrefused)
    (fun _ => ⟨rfl, rfl⟩) (fun _ => ⟨rfl, rfl⟩)

omit hworks in
theorem quiet_call {op : InboxCall} (h : op.Quiet folders.reports requestId) :
    Calls (InboxCall.Quiet folders.reports requestId) (inboxCall op) := Prog.ensures_call h

omit hworks in
/-- A part with quiet calls only, before the others. -/
theorem Midway.wp_quiet {vars : InboxVars} {α : Type} {p : InboxProg α} {f : α → InboxLocal InboxResult}
    (h : Midway folders w₀ path file requestId vars false w) (hready : Ready folders w₀ path file requestId)
    (hp : Calls (InboxCall.Quiet folders.reports requestId) p)
    (hf : ∀ a w', Midway folders w₀ path file requestId vars false w' →
      (f a).wp (inboxProtocol reads folders also) (BodyPost folders also w₀ path file requestId) vars w') :
    ((liftM p : InboxLocal α) >>= f).wp (inboxProtocol reads folders also)
      (BodyPost folders also w₀ path file requestId) vars w := by
  rw [Local.wp_bind, Local.liftM_eq_ofProg, Local.wp_ofProg]
  refine Prog.wp_mono (h.held.wp_quiet hp hready (h.folder_mem hready) h.name) ?_
  rintro r w' ⟨hheld, hexception⟩
  cases r with
  | ok a => exact hf a w' { h with held := hheld }
  | error e => exact ⟨hexception e rfl, { h with held := hheld }⟩

omit hworks in
theorem Midway.wp_raise {vars : InboxVars} {α : Type} {e : ActivationError} {f : α → InboxLocal InboxResult}
    (h : Midway folders w₀ path file requestId vars false w) :
    ((liftM (raise e : InboxProg α) : InboxLocal α) >>= f).wp (inboxProtocol reads folders also)
      (BodyPost folders also w₀ path file requestId) vars w := by
  rw [Local.wp_bind, Local.liftM_eq_ofProg, Local.wp_ofProg]
  exact ⟨trivial, h⟩

omit hworks in
theorem Midway.wp_orRaise {vars : InboxVars} {α : Type} {value : Except ActivationError α}
    {f : α → InboxLocal InboxResult} (h : Midway folders w₀ path file requestId vars false w)
    (hf : ∀ a, value = .ok a →
      (f a).wp (inboxProtocol reads folders also) (BodyPost folders also w₀ path file requestId) vars w) :
    ((liftM (orRaise value) : InboxLocal α) >>= f).wp (inboxProtocol reads folders also)
      (BodyPost folders also w₀ path file requestId) vars w := by
  cases value with
  | ok a =>
    rw [Local.wp_bind, Local.liftM_eq_ofProg, Local.wp_ofProg]
    exact hf a rfl
  | error e => exact h.wp_raise

theorem Midway.wp_materializeSubmission {vars : InboxVars}
    (h : Midway folders w₀ path file requestId vars false w) (hready : Ready folders w₀ path file requestId)
    {submission : Dict Json} :
    (materializeSubmission py env conv world alnum folders automation requestId submission).wp
      (inboxProtocol reads folders also) (BodyPost folders also w₀ path file requestId) vars w := by
  refine h.wp_quiet hready (quiet_call trivial) fun review w h => ?_
  split
  · exact h.wp_raise
  refine h.wp_orRaise fun artifact _ => h.wp_orRaise fun recipe hrecipe => ?_
  have hname := recipeYamlPath_canonicalRecipe hrecipe
  refine h.wp_quiet hready (quiet_call trivial) fun _ w h => h.wp_orRaise fun _ _ => ?_
  refine h.wp_quiet hready (quiet_call trivial) fun _ w h => ?_
  refine h.wp_quiet hready (quiet_call trivial) fun _ w h => ?_
  refine h.wp_quiet hready ((automates_autoExistingTupleReport hname).mono fun _ h => h.2) fun _ w h => ?_
  refine h.wp_quiet hready (automates_autoPromotionReport.mono fun _ h => h.2) fun _ w h => ?_
  exact h.wp_report hworks hready .processed nofun nofun (fun _ => ⟨rfl, rfl⟩) (fun _ => ⟨rfl, rfl⟩)

/-- A file in work is marked, checked, and rejected or materialized. -/
theorem Midway.wp_inWork {vars : InboxVars} (h : Midway folders w₀ path file requestId vars false w)
    (hready : Ready folders w₀ path file requestId) {submission : Dict Json} :
    (do
      let vars ← Local.read
      inboxCall (.markProcessing requestId vars.currentPath.names)
      match ← inboxCall (.validateDraft submission) with
      | some reasons => rejectDraft folders requestId reasons
      | none => materializeSubmission py env conv world alnum folders automation requestId submission
        : InboxLocal InboxResult).wp (inboxProtocol reads folders also)
      (BodyPost folders also w₀ path file requestId) vars w := by
  refine Local.wp_read_bind.mpr (Local.wp_perform_bind.mpr ⟨trivial, fun r hr => ?_⟩)
  match r with
  | .error e => exact absurd (hworks _ _ hr.2) id
  | .ok () =>
    have h' : Midway folders w₀ path file requestId vars false
        { w with table := markProcessing w.table requestId vars.currentPath.names } :=
      { h with held := h.held.setRow fun _ hother => get?_markProcessing_of_ne hother }
    refine Local.wp_perform_bind.mpr ⟨trivial, fun r hr => ?_⟩
    match r with
    | .error e => exact ⟨hr.1.isException rfl, h'⟩
    | .ok (some reasons) => exact h'.wp_rejectDraft hworks hready ⟨_, submission, reasons, hr.2⟩
    | .ok none => exact h'.wp_materializeSubmission hworks hready

/-- A submission is indexed and taken into work. -/
theorem wp_processBody (hready : Ready folders w₀ path file requestId) {fields : List (String × Json)}
    (hid : submissionRequestId py path.name (.ofFields fields) = requestId) {stem : String} :
    (processBody py env conv world alnum folders automation path (.ok (.obj fields))).wp
      (inboxProtocol reads folders also) (BodyPost folders also w₀ path file requestId) ⟨path, stem⟩ w₀ := by
  subst hid
  refine Local.wp_perform_bind.mpr ⟨trivial, fun r hr => ?_⟩
  match r with
  | .error e => exact absurd (hworks _ _ hr.2) id
  | .ok () =>
    have hrows (other : String) (hother : other ≠ submissionRequestId py path.name (.ofFields fields)) :
        (upsertPending w₀.table (requestMetadata py path.name (.ofFields fields)) path.names).get? other =
          w₀.table.get? other := get?_upsertPending_of_ne hother
    have hheld := hready.held.setRow hrows
    have h : Midway folders w₀ path file (submissionRequestId py path.name (.ofFields fields))
        ⟨path, (requestMetadata py path.name (.ofFields fields)).requestId⟩ false _ :=
      { requestId_eq := rfl, name := rfl, place := .inl rfl, held := hheld }
    refine Local.wp_write_bind.mpr ?_
    by_cases hinbox : path.folder = folders.inbox
    · have hne : folders.processing ≠ path.folder := hinbox ▸ InboxFolders.processing_ne_inbox hready.apart
      rw [if_pos hinbox, Local.wp_bind]
      refine Local.wp_mono (h.wp_moveCurrent hworks hready InboxFolders.processing_mem hne hne
        (hready.free _ InboxFolders.processing_mem (hinbox ▸ hne) hne)) ?_
      rintro r vars w' ⟨rfl, rfl, hmoved⟩
      have h' : Midway folders w₀ path file (submissionRequestId py path.name (.ofFields fields))
          ⟨⟨folders.processing, path.name⟩, _⟩ false w' :=
        { requestId_eq := rfl, name := rfl, place := .inr ⟨hinbox, rfl⟩, held := hmoved }
      exact h'.wp_inWork hworks hready
    · rw [if_neg hinbox]
      exact h.wp_inWork hworks hready

/-- The handler of exceptions moves the file, wherever it is, to the failed ones. -/
theorem Midway.wp_failSubmission {vars : InboxVars} (h : Midway folders w₀ path file requestId vars false w)
    (hready : Ready folders w₀ path file requestId) {e : InboxError} (he : e.IsException) :
    (failSubmission text folders path e).wp (inboxProtocol reads folders also) (fun r _ w' => ∃ result,
      r = .ok result ∧ Settled folders w₀ path file requestId .failed result w') vars w := by
  cases e with
  | systemExit message => exact absurd he id
  | exception e =>
  obtain ⟨hne, hne', hfree⟩ := h.ending_free hready .failed
  refine Local.wp_read_bind.mpr (Local.wp_perform_bind.mpr ⟨trivial, fun r hr => ?_⟩)
  match r with
  | .error e => exact absurd (hworks _ _ hr.2) id
  | .ok there =>
    obtain rfl : there = true := by
      have hanswer : there = _ := hr.1 (by rw [InboxPath.dropLast_names]; exact h.folder_mem hready)
      rw [hanswer, h.held.file, if_pos rfl]
      rfl
    dsimp only
    rw [if_pos rfl, Local.wp_bind, Local.liftM_eq_ofProg, Local.wp_ofProg]
    refine Prog.wp_mono (h.held.wp_moveSubmission hworks (h.current_free hready) Ending.failed.folder_mem hne hne'
      hfree) ?_
    rintro r w' ⟨rfl, hmoved⟩
    refine Local.wp_perform_bind.mpr ⟨trivial, fun r hr => ?_⟩
    match r with
    | .error e => exact absurd (hworks _ _ hr.2) id
    | .ok () =>
      have hnames : folders.failed ++ [vars.currentPath.name] = Ending.failed.folder folders ++ [path.name] := by
        rw [h.name]
        rfl
      rw [h.name] at hmoved
      rw [h.requestId_eq]
      exact Local.wp_pure.mpr ⟨_, rfl, hmoved.settled rfl hnames hnames rfl⟩

theorem wp_processLoaded {loaded : Except InboxError Json}
    (hready : Ready folders w₀ path file (requestIdOf py reads path.name file))
    (hroot : ∀ value, reads file = .ok value → ∃ fields, value = .obj fields)
    (hloaded : (inboxProtocol reads folders also).allowed w₀ ⟨.load path, loaded⟩) :
    (processLoaded py env conv world alnum text folders automation path loaded).wp
      (inboxProtocol reads folders also) (fun r w => ∃ result ending, r = .ok result ∧
        Settled folders w₀ path file (requestIdOf py reads path.name file) ending result w ∧
        (ending = .refused → ∃ w submission reasons, also w ⟨.validateDraft submission, .ok (some reasons)⟩)) w₀ := by
  have hbody : (processBody py env conv world alnum folders automation path loaded).wp
      (inboxProtocol reads folders also) (BodyPost folders also w₀ path file (requestIdOf py reads path.name file)) ⟨path, pathStem path.name⟩ w₀ := by
    match loaded with
    | .error e =>
      have hreads : ∀ value, reads file ≠ .ok value := hworks _ _ hloaded.2 file hready.there
      have hid : pathStem path.name = requestIdOf py reads path.name file := by
        unfold requestIdOf
        split
        · next fields hfields => exact absurd hfields (hreads _)
        · rfl
      have hmidway : Midway folders w₀ path file (requestIdOf py reads path.name file)
          ⟨path, pathStem path.name⟩ false w₀ :=
        { requestId_eq := hid, name := rfl, place := .inl rfl, held := hready.held }
      exact Local.wp_bind.mpr (Local.wp_throw.mpr ⟨hloaded.1.isException rfl, hmidway⟩)
    | .ok value =>
      obtain ⟨file', hfile', hvalue⟩ := hloaded.1
      obtain rfl := Option.some.inj (hready.there.symm.trans hfile')
      obtain ⟨fields, rfl⟩ := hroot value hvalue
      exact wp_processBody hworks hready (by rw [requestIdOf, hvalue])
  refine Local.wp_run (Local.wp_tryCatch.mpr (Local.wp_mono hbody ?_))
  intro r vars w' hpost
  cases r with
  | ok result =>
    obtain ⟨ending, hsettled, hrefused⟩ := hpost
    exact ⟨result, ending, rfl, hsettled, hrefused⟩
  | error e =>
    obtain ⟨he, hmidway⟩ := hpost
    refine Local.wp_mono (hmidway.wp_failSubmission hworks hready he) ?_
    rintro r vars' w'' ⟨result, rfl, hsettled⟩
    exact ⟨result, .failed, rfl, hsettled, nofun⟩

/-- A file that is ready ends in its folder, with its row, its result and no other change. -/
theorem processFile_settles (hready : Ready folders w₀ path file (requestIdOf py reads path.name file))
    (hroot : ∀ value, reads file = .ok value → ∃ fields, value = .obj fields) :
    (processFile py env conv world alnum text folders automation path).wp
      (inboxProtocol reads folders also) (fun r w => ∃ result ending, r = .ok result ∧
        Settled folders w₀ path file (requestIdOf py reads path.name file) ending result w ∧
        (ending = .refused → ∃ w submission reasons, also w ⟨.validateDraft submission, .ok (some reasons)⟩)) w₀ := by
  refine Prog.wp_andThen.mpr ⟨trivial, fun r hr => ?_⟩
  have hafter : (inboxProtocol reads folders also).after w₀ ⟨.load path, r⟩ = w₀ := by
    cases r <;> rfl
  rw [hafter]
  exact wp_processLoaded hworks hready hroot hr

end Parts

end Way

end Gpucall.Inbox
