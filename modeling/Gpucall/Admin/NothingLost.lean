import Gpucall.Admin.InboxRun
import Gpucall.Admin.LiveValidation

/-! What a run of `process_inbox` makes of the files that were put into the inbox. Where it settles them, none is
lost: each ends in one of the two folders, the index knows in which, and there is a result for it. A text that is
JSON but no object settles nothing: `_load_json` exits, and no handler of the loop catches that. -/

namespace Gpucall.Inbox

open Effects

variable {F : Type} {reads : F → Except ActivationError Json} {folders : InboxFolders} {w₀ w : InboxWorld F}
  {py : Builtins} {path : InboxPath} {paths : List InboxPath}

/-! ## Files that wait for the inbox -/

/-- A file that a run is to process -/
def Waiting (folders : InboxFolders) (w : InboxWorld F) (path : InboxPath) : Prop :=
  (path.folder = folders.inbox ∨ path.folder = folders.processing) ∧ (w.file path.names).isSome

/-- The folders differ, and the names of the files that wait are taken in no other of them. -/
structure Deposited (folders : InboxFolders) (w : InboxWorld F) : Prop where
  apart : folders.submissions.Nodup
  names : ∀ path, Waiting folders w path → ∀ folder ∈ folders.submissions, folder ≠ path.folder →
    w.file (folder ++ [path.name]) = none

/-- The text of a file is JSON, but no object. -/
def Poison (reads : F → Except ActivationError Json) (w : InboxWorld F) (path : InboxPath) : Prop :=
  ∃ file value, w.file path.names = some file ∧ reads file = .ok value ∧ ∀ fields, value ≠ .obj fields

/-- Reports go where no submission is or comes to be. -/
def ReportsBeside (py : Builtins) (reads : F → Except ActivationError Json) (folders : InboxFolders)
    (w : InboxWorld F) : Prop :=
  ∀ path, Waiting folders w path → ∀ kind,
    w.file (reportPath folders.reports (requestIdAt py reads w path) kind) = none ∧
      ∀ other, Waiting folders w other → ∀ folder ∈ folders.submissions,
        reportPath folders.reports (requestIdAt py reads w path) kind ≠ folder ++ [other.name]

/-- No file that waits harms the run: it is no poison, and its id is its own. -/
structure Harmless (py : Builtins) (reads : F → Except ActivationError Json) (folders : InboxFolders)
    (w : InboxWorld F) : Prop where
  root : ∀ path, Waiting folders w path → ¬ Poison reads w path
  ids : ∀ path other, Waiting folders w path → Waiting folders w other → path ≠ other →
    requestIdAt py reads w path ≠ requestIdAt py reads w other

/-- No row of the index but that of one id gives a place of a file with a name. -/
def UnnamedBut (requestId name : String) (w : InboxWorld F) : Prop :=
  ∀ id ≠ requestId, ∀ row, w.table.get? id = some row → ∀ folder, row.originalPath ≠ folder ++ [name]

def Unnamed (name : String) (w : InboxWorld F) : Prop :=
  ∀ id row, w.table.get? id = some row → ∀ folder, row.originalPath ≠ folder ++ [name]

/-- The index does not know yet of the files that wait. -/
def Unindexed (folders : InboxFolders) (w : InboxWorld F) : Prop :=
  ∀ path, Waiting folders w path → Unnamed path.name w

/-! ## What is claimed of a run -/

/-- A row of the index says of a place that a submission is there, and how it ended. -/
def RowSays (w : InboxWorld F) (status : RequestStatus) (place : List String) : Prop :=
  ∃ id row, w.table.get? id = some row ∧ row.status = status ∧ row.originalPath = place

/-- A file has come to one of two places and is not at the other, and the index says so. -/
def LandsAt (w : InboxWorld F) (file : F) (status : RequestStatus) (place other : List String) : Prop :=
  w.file place = some file ∧ w.file other = none ∧ RowSays w status place

/-- A file that waited is in exactly one of the two folders, unchanged, where the index and a result say. -/
def Landed (folders : InboxFolders) (w₀ w : InboxWorld F) (path : InboxPath) (result : InboxResult) : Prop :=
  ∃ file, w₀.file path.names = some file ∧ w.file path.names = none ∧
    (LandsAt w file .processed (folders.processed ++ [path.name]) (folders.failed ++ [path.name]) ∧
        result.submission = folders.processed ++ [path.name] ∧ result.ok = true ∨
      LandsAt w file .failed (folders.failed ++ [path.name]) (folders.processed ++ [path.name]) ∧
        result.submission = folders.failed ++ [path.name] ∧ result.ok = false)

/-- The run returns one result for each file that waited, and each has landed. -/
def NothingLost (folders : InboxFolders) (w₀ : InboxWorld F) (r : Except InboxError (List InboxResult))
    (w : InboxWorld F) : Prop :=
  ∃ paths results, r = .ok results ∧ paths.Nodup ∧ (∀ path, path ∈ paths ↔ Waiting folders w₀ path) ∧
    List.Forall₂ (Landed folders w₀ w) paths results

/-! ## Files that can start -/

theorem Poison.of_not (h : ¬ Poison reads w path) {file : F} (hfile : w.file path.names = some file) {value : Json}
    (hvalue : reads file = .ok value) : ∃ fields, value = .obj fields := by
  by_contra hno
  exact h ⟨file, value, hfile, hvalue, fun fields heq => hno ⟨fields, heq⟩⟩

theorem ReportsBeside.ready (h : ReportsBeside py reads folders w) (hdeposited : Deposited folders w)
    (hpath : Waiting folders w path) :
    ∃ file, Ready folders w path file (requestIdAt py reads w path) := by
  obtain ⟨file, hfile⟩ := Option.isSome_iff_exists.mp hpath.2
  exact ⟨file, {
    there := hfile
    folder := hpath.1
    apart := hdeposited.apart
    free := fun folder hmem _ hne => hdeposited.names path hpath folder hmem hne
    reports := fun kind => ⟨(h path hpath kind).1, (h path hpath kind).2 path hpath⟩ }⟩

/-- Two files that wait have different names: one that has the name of another is in another folder. -/
theorem Deposited.name_ne (h : Deposited folders w) {other : InboxPath} (hpath : Waiting folders w path)
    (hother : Waiting folders w other) (hne : path ≠ other) : path.name ≠ other.name := by
  intro hname
  have hfolder : other.folder ≠ path.folder := fun hfolder => hne (by
    rw [← InboxPath.names_inj, InboxPath.names, InboxPath.names, hname, hfolder])
  have hmem : other.folder ∈ folders.submissions := by
    rcases hother.1 with h | h <;> simp [InboxFolders.submissions, h]
  have hnone := h.names path hpath other.folder hmem hfolder
  rw [hname, ← InboxPath.names] at hnone
  rw [Waiting, hnone] at hother
  exact absurd hother.2 Bool.false_ne_true

theorem ReportsBeside.apart (h : ReportsBeside py reads folders w) (hdeposited : Deposited folders w)
    {other : InboxPath} (hpath : Waiting folders w path) (hother : Waiting folders w other) (hne : path ≠ other) :
    Apart py reads folders w path other where
  name := hdeposited.name_ne hpath hother hne
  reports kind folder hmem := (h other hother kind).2 path hpath folder hmem

theorem Waiting.folder_mem (h : Waiting folders w path) : path.folder ∈ folders.submissions := by
  rcases h.1 with h | h <;> simp [InboxFolders.submissions, h]

theorem InboxFolders.processed_ne_failed (hapart : folders.submissions.Nodup) :
    folders.processed ≠ folders.failed := by
  simp only [InboxFolders.submissions, List.nodup_cons, List.mem_cons, List.not_mem_nil, or_false] at hapart
  exact hapart.2.2.1

theorem Waiting.folder_ne (h : Waiting folders w path) (hapart : folders.submissions.Nodup) (ending : Ending) :
    ending.folder folders ≠ path.folder := by
  rcases h.1 with h | h <;> rw [h]
  · exact (ending.folder_ne hapart).1
  · exact (ending.folder_ne hapart).2

/-- A file that has ended has landed. -/
theorem Ended.landed {requestId : String} {ending : Ending} {result : InboxResult}
    (h : Ended folders w₀ w requestId path ending result) (hdeposited : Deposited folders w₀)
    (hpath : Waiting folders w₀ path) : Landed folders w₀ w path result := by
  obtain ⟨file, hthere, hplaces⟩ := h.file
  have hne (other : Ending) := hpath.folder_ne hdeposited.apart other
  have hleft : w.file path.names = none := by
    rw [InboxPath.names, hplaces _ hpath.folder_mem, if_neg (hne ending).symm, if_pos rfl]
  have hdestination : w.file (ending.folder folders ++ [path.name]) = some file := by
    rw [hplaces _ ending.folder_mem, if_pos rfl]
  have hother (other : Ending) (hapart : other.folder folders ≠ ending.folder folders) :
      w.file (other.folder folders ++ [path.name]) = none := by
    rw [hplaces _ other.folder_mem, if_neg hapart, if_neg (hne other)]
    exact hdeposited.names path hpath _ other.folder_mem (hne other)
  have hfolders := InboxFolders.processed_ne_failed hdeposited.apart
  have hrow : RowSays w ending.status (ending.folder folders ++ [path.name]) := ⟨requestId, h.row⟩
  refine ⟨file, hthere, hleft, ?_⟩
  cases ending with
  | processed => exact .inl ⟨⟨hdestination, hother .failed hfolders.symm, hrow⟩, h.submission, h.ok⟩
  | refused => exact .inr ⟨⟨hdestination, hother .processed hfolders, hrow⟩, h.submission, h.ok⟩
  | failed => exact .inr ⟨⟨hdestination, hother .processed hfolders, hrow⟩, h.submission, h.ok⟩

/-! ## The inbox -/

section Run

variable {env : Environment} {conv : Conversions} {world : Materialization} {alnum : Alphanumeric}
  {text : ActivationError → String} {automation : InboxAutomation}

/-- No handler catches the exit of a text that is JSON but no object. -/
theorem wp_processFile_poison (hpoison : Poison reads w₀ path) :
    (processFile py env conv world alnum text folders automation path).wp
      (inboxProtocol reads folders (Succeeds reads)) (fun r _ => ∃ e, r = .error e) w₀ := by
  obtain ⟨file, value, hfile, hvalue, hno⟩ := hpoison
  refine Prog.wp_andThen.mpr ⟨trivial, fun r hr => ?_⟩
  match r with
  | .error e => exact absurd hvalue (hr.2.1 file hfile value)
  | .ok value' =>
    obtain ⟨file', hfile', hvalue'⟩ := hr.1
    obtain rfl := Option.some.inj (hfile.symm.trans hfile')
    obtain rfl := Except.ok.inj (hvalue.symm.trans hvalue')
    refine Local.wp_run (Local.wp_tryCatch.mpr ?_)
    cases value with
    | obj fields => exact absurd rfl (hno fields)
    | _ => exact Local.wp_throw.mpr (Local.wp_throw.mpr ⟨_, rfl⟩)

theorem Poison.settled {file : F} {requestId : String} {ending : Ending} {result : InboxResult}
    {other : InboxPath} (h : Settled folders w₀ path file requestId ending result w)
    (hne : path.name ≠ other.name) (hpoison : Poison reads w₀ other) : Poison reads w other := by
  obtain ⟨file', value, hfile, hvalue⟩ := hpoison
  exact ⟨file', value, (h.file_of_name_ne hne _).trans hfile, hvalue⟩

theorem pairwise_apart_settled {file : F} {requestId : String} {ending : Ending} {result : InboxResult}
    (h : Settled folders w₀ path file requestId ending result w)
    (hfirst : ∀ other ∈ paths, Apart py reads folders w₀ path other)
    (hrest : paths.Pairwise (Apart py reads folders w₀)) : paths.Pairwise (Apart py reads folders w) :=
  hrest.imp_of_mem fun _ hmem hapart => hapart.settled (hfirst _ hmem).name h

/-- A run that comes to such a text ends there. -/
theorem wp_processFiles_poison
    (hready : ∀ path ∈ paths, ∃ file, Ready folders w₀ path file (requestIdAt py reads w₀ path))
    (hapart : paths.Pairwise (Apart py reads folders w₀)) (hpoison : ∃ path ∈ paths, Poison reads w₀ path) :
    (paths.mapM (processFile py env conv world alnum text folders automation)).wp
      (inboxProtocol reads folders (Succeeds reads)) (fun r _ => ∃ e, r = .error e) w₀ := by
  induction paths generalizing w₀ with
  | nil =>
    obtain ⟨path, hmem, -⟩ := hpoison
    exact absurd hmem List.not_mem_nil
  | cons path paths ih =>
    obtain ⟨hfirst, hrest⟩ := List.pairwise_cons.mp hapart
    by_cases hhere : Poison reads w₀ path
    · refine Prog.wp_mapM_cons.mpr (Prog.wp_mono (wp_processFile_poison hhere) ?_)
      rintro r w ⟨e, rfl⟩
      exact ⟨e, rfl⟩
    obtain ⟨file, hfile⟩ := hready path List.mem_cons_self
    have hroot (value) : reads file = .ok value → ∃ fields, value = .obj fields := Poison.of_not hhere hfile.there
    refine wp_processFiles_cons (fun _ _ h => h.1) hfile hroot fun result ending w hsettled _ => ?_
    have hready' (other) (hother : other ∈ paths) :
        ∃ file, Ready folders w other file (requestIdAt py reads w other) := by
      obtain ⟨file', hfile'⟩ := hready other (List.mem_cons_of_mem _ hother)
      exact ⟨file', hfile'.settled (hfirst other hother) hfile.folder_mem hsettled⟩
    have hapart' := pairwise_apart_settled hsettled hfirst hrest
    have hpoison' : ∃ other ∈ paths, Poison reads w other := by
      obtain ⟨other, hmem, hpoison⟩ := hpoison
      rcases List.mem_cons.mp hmem with rfl | hother
      · exact absurd hpoison hhere
      · exact ⟨other, hother, hpoison.settled hsettled (hfirst other hother).name⟩
    refine Prog.wp_mono (ih hready' hapart' hpoison') ?_
    rintro r w' ⟨e, rfl⟩
    exact ⟨e, rfl⟩

/-! ## Files of one id -/

theorem Unnamed.but {name : String} (h : Unnamed name w) (requestId : String) : UnnamedBut requestId name w :=
  fun id _ => h id

section Rows

variable {file : F} {requestId name : String} {ending : Ending} {result : InboxResult}

theorem Settled.row_names (h : Settled folders w₀ path file requestId ending result w) (hne : path.name ≠ name)
    {row : RequestRow} (hrow : w.table.get? requestId = some row) (folder : List String) :
    row.originalPath ≠ folder ++ [name] := by
  obtain ⟨row', hrow', -, hpath⟩ := h.row
  obtain rfl := Option.some.inj (hrow.symm.trans hrow')
  intro hplace
  exact hne (List.singleton_inj.mp (List.append_inj' (hpath.symm.trans hplace) rfl).2)

/-- The row of the file that is settled is the only one that is written. -/
theorem Settled.unnamedBut (h : Settled folders w₀ path file requestId ending result w) (hne : path.name ≠ name)
    {other : String} (hbut : UnnamedBut other name w₀) : UnnamedBut other name w := by
  intro id hid row hrow
  by_cases heq : id = requestId
  · exact h.row_names hne (heq ▸ hrow)
  · rw [h.held.row id heq] at hrow
    exact hbut id hid row hrow

theorem Settled.unnamed (h : Settled folders w₀ path file requestId ending result w) (hne : path.name ≠ name)
    (hbut : UnnamedBut requestId name w₀) : Unnamed name w := by
  intro id row hrow
  by_cases heq : id = requestId
  · exact h.row_names hne (heq ▸ hrow)
  · exact h.unnamedBut hne hbut id heq row hrow

end Rows

/-- Once another file of an id is settled, no row gives a place of the first. -/
theorem wp_processFiles_unnamed {requestId name : String} (hwaits : ∀ path ∈ paths, Waits py reads folders w₀ path)
    (hapart : paths.Pairwise (Apart py reads folders w₀)) (hname : ∀ path ∈ paths, path.name ≠ name)
    (hbut : UnnamedBut requestId name w₀)
    (hid : Unnamed name w₀ ∨ ∃ path ∈ paths, requestIdAt py reads w₀ path = requestId) :
    (paths.mapM (processFile py env conv world alnum text folders automation)).wp
      (inboxProtocol reads folders (Succeeds reads)) (fun _ w => Unnamed name w) w₀ := by
  induction paths generalizing w₀ with
  | nil =>
    rcases hid with h | ⟨path, hmem, -⟩
    · exact h
    · exact absurd hmem List.not_mem_nil
  | cons path paths ih =>
    obtain ⟨hfirst, hrest⟩ := List.pairwise_cons.mp hapart
    obtain ⟨file, hready, hroot⟩ := hwaits path List.mem_cons_self
    refine wp_processFiles_cons (fun _ _ h => h.1) hready hroot fun result ending w hsettled _ => ?_
    have hwaits' (other) (hother : other ∈ paths) : Waits py reads folders w other :=
      (hwaits other (List.mem_cons_of_mem _ hother)).settled (hfirst other hother) hready.folder_mem hsettled
    have hapart' := pairwise_apart_settled hsettled hfirst hrest
    have hne := hname path List.mem_cons_self
    have hid' : Unnamed name w ∨ ∃ other ∈ paths, requestIdAt py reads w other = requestId := by
      by_cases hsame : requestIdAt py reads w₀ path = requestId
      · exact .inl (hsettled.unnamed hne (hsame ▸ hbut))
      rcases hid with hunnamed | ⟨other, hmem, hother⟩
      · exact .inl (hsettled.unnamed hne (hunnamed.but _))
      rcases List.mem_cons.mp hmem with rfl | hmem
      · exact absurd hother hsame
      · exact .inr ⟨other, hmem, (hsettled.requestIdAt_eq (hfirst other hmem).name).trans hother⟩
    have hname' (other) (hother : other ∈ paths) : other.name ≠ name := hname other (List.mem_cons_of_mem _ hother)
    exact ih hwaits' hapart' hname' (hsettled.unnamedBut hne hbut) hid'

/-- Where two files have one id, the index knows in the end nothing of one that it had not known of. -/
theorem wp_processFiles_overwrites (hwaits : ∀ path ∈ paths, Waits py reads folders w₀ path)
    (hapart : paths.Pairwise (Apart py reads folders w₀)) (hfresh : ∀ path ∈ paths, Unnamed path.name w₀)
    (hclash : ¬ paths.Pairwise fun path other => requestIdAt py reads w₀ path ≠ requestIdAt py reads w₀ other) :
    (paths.mapM (processFile py env conv world alnum text folders automation)).wp
      (inboxProtocol reads folders (Succeeds reads))
      (fun _ w => ∃ path ∈ paths, Unnamed path.name w) w₀ := by
  induction paths generalizing w₀ with
  | nil => exact absurd .nil hclash
  | cons path paths ih =>
    obtain ⟨hfirst, hrest⟩ := List.pairwise_cons.mp hapart
    obtain ⟨file, hready, hroot⟩ := hwaits path List.mem_cons_self
    refine wp_processFiles_cons (fun _ _ h => h.1) hready hroot fun result ending w hsettled _ => ?_
    have hwaits' (other) (hother : other ∈ paths) : Waits py reads folders w other :=
      (hwaits other (List.mem_cons_of_mem _ hother)).settled (hfirst other hother) hready.folder_mem hsettled
    have hapart' := pairwise_apart_settled hsettled hfirst hrest
    have hsame (other) (hother : other ∈ paths) : requestIdAt py reads w other = requestIdAt py reads w₀ other :=
      hsettled.requestIdAt_eq (hfirst other hother).name
    by_cases hagain : ∃ other ∈ paths, requestIdAt py reads w₀ other = requestIdAt py reads w₀ path
    · obtain ⟨other, hother, hid⟩ := hagain
      have hbut : UnnamedBut (requestIdAt py reads w₀ path) path.name w := by
        intro id hne row hrow
        rw [hsettled.held.row id hne] at hrow
        exact hfresh path List.mem_cons_self id row hrow
      refine Prog.wp_mono (wp_processFiles_unnamed hwaits' hapart' (fun other hmem => (hfirst other hmem).name.symm)
        hbut (.inr ⟨other, hother, (hsame other hother).trans hid⟩)) ?_
      intro r w' hunnamed
      exact ⟨path, List.mem_cons_self, hunnamed⟩
    · have hclash' : ¬ paths.Pairwise fun other path' =>
          requestIdAt py reads w other ≠ requestIdAt py reads w path' := by
        intro hpairwise
        refine hclash (List.pairwise_cons.mpr ⟨fun other hother heq => hagain ⟨other, hother, heq.symm⟩, ?_⟩)
        refine hpairwise.imp_of_mem fun hmem hmem' hne => ?_
        rwa [hsame _ hmem, hsame _ hmem'] at hne
      have hfresh' (other) (hother : other ∈ paths) : Unnamed other.name w :=
        hsettled.unnamed (hfirst other hother).name ((hfresh other (List.mem_cons_of_mem _ hother)).but _)
      refine Prog.wp_mono (ih hwaits' hapart' hfresh' hclash') ?_
      rintro r w' ⟨other, hother, hunnamed⟩
      exact ⟨other, List.mem_cons_of_mem _ hother, hunnamed⟩

/-! ## The inbox -/

/-- A run of the inbox is one over the files that wait. -/
theorem wp_processInbox {Q : Except InboxError (List InboxResult) → InboxWorld F → Prop}
    (h : ∀ paths : List InboxPath, paths.Nodup → (∀ path, path ∈ paths ↔ Waiting folders w₀ path) →
      (paths.mapM (processFile py env conv world alnum text folders automation)).wp
        (inboxProtocol reads folders (Succeeds reads)) Q w₀) :
    (processInbox py env conv world alnum text folders automation).wp
      (inboxProtocol reads folders (Succeeds reads)) Q w₀ := by
  refine Prog.wp_perform_bind.mpr ⟨trivial, fun r hr => ?_⟩
  match r with
  | .error e => exact absurd hr.2.2 id
  | .ok catalog =>
    refine Prog.wp_perform_bind.mpr ⟨trivial, fun r hr => ?_⟩
    match r with
    | .error e => exact absurd hr.2.2 id
    | .ok paths =>
      obtain ⟨hnodup, hmem⟩ : paths.Nodup ∧ ∀ path : InboxPath, path ∈ paths ↔ Waiting folders w₀ path := hr.1
      exact h paths hnodup hmem

theorem ReportsBeside.pairwise (h : ReportsBeside py reads folders w) (hdeposited : Deposited folders w)
    (hnodup : paths.Nodup) (hmem : ∀ path, path ∈ paths ↔ Waiting folders w path) :
    paths.Pairwise fun path other => Apart py reads folders w path other ∧ Apart py reads folders w other path := by
  refine List.Pairwise.imp_of_mem (fun hpath hother hne => ?_) hnodup
  rw [hmem] at hpath hother
  exact ⟨h.apart hdeposited hpath hother hne, h.apart hdeposited hother hpath hne.symm⟩

theorem wp_processInbox_of_harmless (hdeposited : Deposited folders w₀)
    (hreports : ReportsBeside py reads folders w₀) (hharmless : Harmless py reads folders w₀) :
    (processInbox py env conv world alnum text folders automation).wp
      (inboxProtocol reads folders (Succeeds reads)) (NothingLost folders w₀) w₀ := by
  refine wp_processInbox fun paths hnodup hmem => ?_
  have hbeside : paths.Pairwise fun path other =>
      Beside py reads folders w₀ path other ∧ Beside py reads folders w₀ other path := by
    refine ((hreports.pairwise hdeposited hnodup hmem).and hnodup).imp_of_mem fun hpath hother h => ?_
    have hid := hharmless.ids _ _ ((hmem _).mp hpath) ((hmem _).mp hother) h.2
    exact ⟨{ toApart := h.1.1, id := hid }, { toApart := h.1.2, id := hid.symm }⟩
  have hwaits (path) (hpath : path ∈ paths) : Waits py reads folders w₀ path := by
    have hwaiting := (hmem path).mp hpath
    obtain ⟨file, hready⟩ := hreports.ready hdeposited hwaiting
    exact ⟨file, hready, fun value => Poison.of_not (hharmless.root path hwaiting) hready.there⟩
  refine Prog.wp_mono (wp_processFiles (fun _ _ h => h.1) hwaits hbeside) ?_
  rintro r w ⟨results, rfl, hended, -⟩
  refine ⟨paths, results, rfl, hnodup, hmem, ?_⟩
  have hall := (List.forall₂_and_left _ _).mpr ⟨fun path (hpath : path ∈ paths) => hpath, hended⟩
  refine hall.imp fun path result => ?_
  rintro ⟨hpath, ending, hend⟩
  exact hend.landed hdeposited ((hmem path).mp hpath)

/-- A run that loses nothing gives each file a row that names it. -/
theorem NothingLost.named {r : Except InboxError (List InboxResult)} (h : NothingLost folders w₀ r w)
    (hpath : Waiting folders w₀ path) : ¬ Unnamed path.name w := by
  intro hunnamed
  obtain ⟨paths, results, -, -, hmem, hlanded⟩ := h
  obtain ⟨i, hi, rfl⟩ := List.mem_iff_getElem.mp ((hmem path).mpr hpath)
  obtain ⟨file, -, -, hends⟩ := hlanded.get hi (hlanded.length_eq ▸ hi)
  rcases hends with ⟨⟨-, -, id, row, hrow, -, hplace⟩, -⟩ | ⟨⟨-, -, id, row, hrow, -, hplace⟩, -⟩
  · exact hunnamed id row hrow _ hplace
  · exact hunnamed id row hrow _ hplace

theorem wp_processInbox_of_harm (hdeposited : Deposited folders w₀)
    (hreports : ReportsBeside py reads folders w₀) (hfresh : Unindexed folders w₀)
    (hharm : ¬ Harmless py reads folders w₀) :
    (processInbox py env conv world alnum text folders automation).wp
      (inboxProtocol reads folders (Succeeds reads)) (fun r w => ¬ NothingLost folders w₀ r w) w₀ := by
  refine wp_processInbox fun paths hnodup hmem => ?_
  have hpairwise := hreports.pairwise hdeposited hnodup hmem
  have hapart : paths.Pairwise (Apart py reads folders w₀) := hpairwise.imp fun h => h.1
  have hready (path) (hpath : path ∈ paths) := hreports.ready hdeposited ((hmem path).mp hpath)
  by_cases hpoison : ∃ path ∈ paths, Poison reads w₀ path
  · refine Prog.wp_mono (wp_processFiles_poison hready hapart hpoison) ?_
    rintro r w ⟨e, rfl⟩ ⟨paths, results, hr, -⟩
    exact nomatch hr
  have hroot (path) (hpath : path ∈ paths) : ¬ Poison reads w₀ path := fun h => hpoison ⟨path, hpath, h⟩
  have hwaits (path) (hpath : path ∈ paths) : Waits py reads folders w₀ path := by
    obtain ⟨file, hfile⟩ := hready path hpath
    exact ⟨file, hfile, fun value => Poison.of_not (hroot path hpath) hfile.there⟩
  have hclash : ¬ paths.Pairwise fun path other =>
      requestIdAt py reads w₀ path ≠ requestIdAt py reads w₀ other := by
    intro hids
    have : Std.Symm fun path other => requestIdAt py reads w₀ path ≠ requestIdAt py reads w₀ other :=
      ⟨fun _ _ h => h.symm⟩
    refine hharm ⟨fun path hpath => hroot path ((hmem path).mpr hpath), fun path other hpath hother hne => ?_⟩
    exact hids.forall ((hmem path).mpr hpath) ((hmem other).mpr hother) hne
  refine Prog.wp_mono (wp_processFiles_overwrites hwaits hapart
    (fun path hpath => hfresh path ((hmem path).mp hpath)) hclash) ?_
  rintro r w ⟨path, hpath, hunnamed⟩ hnothing
  exact hnothing.named ((hmem path).mp hpath) hunnamed

end Run

section Examples

/-- A text is what it reads as, where it is JSON. -/
def decoded : Option Json → Except ActivationError Json
  | some value => .ok value
  | none => .error (.valueError "Expecting value")

def twoFolders : InboxFolders where
  inbox := ["inbox"]
  processed := ["processed"]
  failed := ["failed"]
  reports := ["reports"]
  output := ["recipes"]
  index := ["index.db"]
  config := none
  promotionWorkDir := none
  panopticon := ["panopticon"]
  state := ["state"]

/-- An inbox with one file -/
def oneFile (text : Option Json) : InboxWorld (Option Json) where
  file path := if path = ["inbox", "a.json"] then some text else none
  report _ := false
  table := .ofFields []

def draftPath : InboxPath := ⟨["inbox"], "a.json"⟩

/-- The inbox with its collaborators -/
def smallInbox : InboxProg (List InboxResult) :=
  processInbox reviewBuiltins reviewEnvironment digitConversions draftsOnly ⟨fun _ => false, rfl⟩ (fun _ => "")
    twoFolders default

theorem file_oneFile {text : Option Json} {folder : List String} {name : String} :
    (oneFile text).file (folder ++ [name]) =
      if folder = ["inbox"] ∧ name = "a.json" then some text else none := by
  have heq : folder ++ [name] = ["inbox", "a.json"] ↔ folder = ["inbox"] ∧ name = "a.json" := by
    rw [show ["inbox", "a.json"] = ["inbox"] ++ ["a.json"] from rfl, ← List.concat_eq_append, ← List.concat_eq_append,
      List.concat_inj]
  simp only [oneFile, heq]

theorem waiting_oneFile {text : Option Json} : Waiting twoFolders (oneFile text) path ↔ path = draftPath := by
  rw [Waiting, InboxPath.names, file_oneFile]
  constructor
  · rintro ⟨-, hfile⟩
    split at hfile
    · next h => exact InboxPath.names_inj.mp (by rw [InboxPath.names, h.1, h.2]; rfl)
    · exact absurd hfile Bool.false_ne_true
  · intro h
    cases h
    exact ⟨.inl rfl, by rw [if_pos ⟨rfl, rfl⟩]; rfl⟩

theorem deposited_oneFile (text : Option Json) : Deposited twoFolders (oneFile text) where
  apart := by decide
  names path hpath folder _ hne := by
    obtain rfl := waiting_oneFile.mp hpath
    rw [file_oneFile, if_neg fun h => hne h.1]

theorem listing_oneFile (text : Option Json) :
    Consistent decoded twoFolders (oneFile text) ⟨.listing, .ok [draftPath]⟩ :=
  ⟨List.nodup_singleton _, fun _ => List.mem_singleton.trans waiting_oneFile.symm⟩

theorem reportsBeside_unreadable : ReportsBeside reviewBuiltins decoded twoFolders (oneFile none) := by
  intro path hpath kind
  obtain rfl := waiting_oneFile.mp hpath
  have hplace : reportPath twoFolders.reports (requestIdAt reviewBuiltins decoded (oneFile none) draftPath) kind =
      ["reports"] ++ ["a" ++ kind.suffix] := by
    cases kind <;> decide +kernel
  refine ⟨?_, fun other hother folder hmem => ?_⟩
  · rw [hplace, file_oneFile, if_neg fun h => absurd h.1 (by decide)]
  · rw [hplace]
    intro heq
    obtain rfl := (List.append_inj' heq rfl).1
    exact absurd hmem (by decide)

theorem harmless_unreadable : Harmless reviewBuiltins decoded twoFolders (oneFile none) where
  root path hpath := by
    obtain rfl := waiting_oneFile.mp hpath
    rintro ⟨file, value, hfile, hvalue, -⟩
    obtain rfl : none = file := Option.some.inj hfile
    exact nomatch hvalue
  ids path other hpath hother hne :=
    absurd ((waiting_oneFile.mp hpath).trans (waiting_oneFile.mp hother).symm) hne

end Examples

end Gpucall.Inbox
