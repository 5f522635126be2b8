import Gpucall.Admin.InboxWorld
import Mathlib.Data.List.Forall2

/-! A run of `process_inbox` over the files that wait. Each file that is settled leaves the others as they are, so
that they can be settled after it; the run ends with one result for each. -/

namespace Gpucall.Inbox

open Effects

variable {F : Type} {reads : F → Except ActivationError Json} {folders : InboxFolders} {w₀ w w' : InboxWorld F}
  {py : Builtins} {path : InboxPath} {paths : List InboxPath}

/-- The id that the file at a path is indexed under -/
def requestIdAt (py : Builtins) (reads : F → Except ActivationError Json) (w : InboxWorld F) (path : InboxPath) :
    String :=
  match w.file path.names with
  | some file => requestIdOf py reads path.name file
  | none => pathStem path.name

/-- A file that waits: it can start, and its text is no JSON but an object. -/
def Waits (py : Builtins) (reads : F → Except ActivationError Json) (folders : InboxFolders) (w : InboxWorld F)
    (path : InboxPath) : Prop :=
  ∃ file, Ready folders w path file (requestIdAt py reads w path) ∧
    ∀ value, reads file = .ok value → ∃ fields, value = .obj fields

/-- The file of the first path is not in the way of the other one: their names differ, and no report of the other
is at a place of the first. -/
structure Apart (py : Builtins) (reads : F → Except ActivationError Json) (folders : InboxFolders)
    (w : InboxWorld F) (path other : InboxPath) : Prop where
  name : path.name ≠ other.name
  reports : ∀ kind, ∀ folder ∈ folders.submissions,
    reportPath folders.reports (requestIdAt py reads w other) kind ≠ folder ++ [path.name]

/-- Files that are indexed under ids of their own as well. -/
structure Beside (py : Builtins) (reads : F → Except ActivationError Json) (folders : InboxFolders)
    (w : InboxWorld F) (path other : InboxPath) : Prop extends Apart py reads folders w path other where
  id : requestIdAt py reads w path ≠ requestIdAt py reads w other

/-- The file of a path has ended, and the index and a result say how. -/
structure Ended (folders : InboxFolders) (w₀ w : InboxWorld F) (requestId : String) (path : InboxPath)
    (ending : Ending) (result : InboxResult) : Prop where
  file : ∃ file, w₀.file path.names = some file ∧ ∀ folder ∈ folders.submissions,
    w.file (folder ++ [path.name]) =
      if folder = ending.folder folders then some file
      else if folder = path.folder then none else w₀.file (folder ++ [path.name])
  row : ∃ row, w.table.get? requestId = some row ∧ row.status = ending.status ∧
    row.originalPath = ending.folder folders ++ [path.name]
  submission : result.submission = ending.folder folders ++ [path.name]
  ok : result.ok = decide (ending = .processed)

theorem requestIdAt_eq {file : F} (h : w.file path.names = some file) :
    requestIdAt py reads w path = requestIdOf py reads path.name file := by
  rw [requestIdAt, h]

theorem Settled.ended {file : F} {requestId : String} {ending : Ending} {result : InboxResult}
    (h : Settled folders w₀ path file requestId ending result w) (hthere : w₀.file path.names = some file) :
    Ended folders w₀ w requestId path ending result where
  file := by
    refine ⟨file, hthere, fun folder _ => ?_⟩
    rw [h.held.file]
    have heq {place : List String} : folder ++ [path.name] = place ++ [path.name] ↔ folder = place :=
      List.append_left_inj _
    simp only [InboxPath.names, heq]
  row := h.row
  submission := h.submission
  ok := h.ok

/-- What has ended stays so while the places and the row are left alone. -/
theorem Ended.later {requestId : String} {ending : Ending} {result : InboxResult}
    (h : Ended folders w₀ w requestId path ending result)
    (hfile : ∀ folder, w'.file (folder ++ [path.name]) = w.file (folder ++ [path.name]))
    (hrow : w'.table.get? requestId = w.table.get? requestId) :
    Ended folders w₀ w' requestId path ending result where
  file := by
    obtain ⟨file, hthere, hplaces⟩ := h.file
    exact ⟨file, hthere, fun folder hmem => (hfile folder).trans (hplaces folder hmem)⟩
  row := hrow ▸ h.row
  submission := h.submission
  ok := h.ok

/-- What ends after the places were left alone ends as from the start. -/
theorem Ended.earlier {requestId : String} {ending : Ending} {result : InboxResult}
    (h : Ended folders w w' requestId path ending result)
    (hfile : ∀ folder, w.file (folder ++ [path.name]) = w₀.file (folder ++ [path.name])) :
    Ended folders w₀ w' requestId path ending result where
  file := by
    obtain ⟨file, hthere, hplaces⟩ := h.file
    refine ⟨file, (hfile _).symm.trans hthere, fun folder hmem => ?_⟩
    rw [hplaces folder hmem, hfile]
  row := h.row
  submission := h.submission
  ok := h.ok

/-! ## The other files -/

section Frame

variable {file : F} {requestId : String} {ending : Ending} {result : InboxResult} {other : InboxPath}

theorem Settled.file_of_name_ne (h : Settled folders w₀ path file requestId ending result w) {name : String}
    (hne : path.name ≠ name) (folder : List String) : w.file (folder ++ [name]) = w₀.file (folder ++ [name]) := by
  have hplace (place : List String) : folder ++ [name] ≠ place ++ [path.name] := fun heq =>
    hne (List.singleton_inj.mp (List.append_inj' heq rfl).2).symm
  rw [h.held.file, InboxPath.names, InboxPath.names, if_neg (hplace _), if_neg (hplace _)]

theorem Settled.requestIdAt_eq (h : Settled folders w₀ path file requestId ending result w)
    (hne : path.name ≠ other.name) : requestIdAt py reads w other = requestIdAt py reads w₀ other := by
  rw [requestIdAt, requestIdAt, InboxPath.names, h.file_of_name_ne hne]

/-- A file that can start can start after another one was settled apart from it. -/
theorem Ready.settled {file' : F} (hready : Ready folders w₀ other file' (requestIdAt py reads w₀ other))
    (hapart : Apart py reads folders w₀ path other) (hfolder : path.folder ∈ folders.submissions)
    (h : Settled folders w₀ path file requestId ending result w) :
    Ready folders w other file' (requestIdAt py reads w other) := by
  have hsame (folder : List String) : w.file (folder ++ [other.name]) = w₀.file (folder ++ [other.name]) :=
    h.file_of_name_ne hapart.name folder
  rw [h.requestIdAt_eq hapart.name]
  exact {
    there := (hsame _).trans hready.there
    folder := hready.folder
    apart := hready.apart
    free := fun folder hmem hinbox hne => (hsame folder).trans (hready.free folder hmem hinbox hne)
    reports := fun kind => by
      have hdestination := hapart.reports kind _ (@Ending.folder_mem folders ending)
      have hstart := hapart.reports kind _ hfolder
      refine ⟨?_, (hready.reports kind).2⟩
      rw [h.held.file, InboxPath.names, InboxPath.names, if_neg hdestination, if_neg hstart,
        (hready.reports kind).1] }

theorem Waits.settled (hwaits : Waits py reads folders w₀ other)
    (hapart : Apart py reads folders w₀ path other) (hfolder : path.folder ∈ folders.submissions)
    (h : Settled folders w₀ path file requestId ending result w) : Waits py reads folders w other := by
  obtain ⟨file', hready, hroot⟩ := hwaits
  exact ⟨file', hready.settled hapart hfolder h, hroot⟩

theorem Apart.settled (hapart : Apart py reads folders w₀ other path')
    (hne : path.name ≠ path'.name) (h : Settled folders w₀ path file requestId ending result w) :
    Apart py reads folders w other path' where
  name := hapart.name
  reports := by
    rw [h.requestIdAt_eq hne]
    exact hapart.reports

theorem Beside.settled (hbeside : Beside py reads folders w₀ other path') (hne : path.name ≠ other.name)
    (hne' : path.name ≠ path'.name) (h : Settled folders w₀ path file requestId ending result w) :
    Beside py reads folders w other path' where
  toApart := hbeside.toApart.settled hne' h
  id := by
    rw [h.requestIdAt_eq hne, h.requestIdAt_eq hne']
    exact hbeside.id

end Frame

/-! ## The run -/

section Run

variable {env : Environment} {conv : Conversions} {world : Materialization} {alnum : Alphanumeric}
  {text : ActivationError → String} {automation : InboxAutomation}
  {also : InboxWorld F → Event InboxCall InboxCall.Result InboxError → Prop}

/-- What is not at the names and ids of some files is as it was. -/
structure Untouched (py : Builtins) (reads : F → Except ActivationError Json) (w₀ w : InboxWorld F)
    (paths : List InboxPath) : Prop where
  file : ∀ folder name, (∀ path ∈ paths, path.name ≠ name) → w.file (folder ++ [name]) = w₀.file (folder ++ [name])
  row : ∀ id, (∀ path ∈ paths, requestIdAt py reads w₀ path ≠ id) → w.table.get? id = w₀.table.get? id

/-- Where the first file can start, the run goes on after it was settled. -/
theorem wp_processFiles_cons {file : F} {Q : Except InboxError (List InboxResult) → InboxWorld F → Prop}
    (hworks : ∀ w e, also w e → Works reads w e)
    (hready : Ready folders w₀ path file (requestIdAt py reads w₀ path))
    (hroot : ∀ value, reads file = .ok value → ∃ fields, value = .obj fields)
    (hrest : ∀ result ending w, Settled folders w₀ path file (requestIdAt py reads w₀ path) ending result w →
      (ending = .refused → ∃ w submission reasons, also w ⟨.validateDraft submission, .ok (some reasons)⟩) →
      (paths.mapM (processFile py env conv world alnum text folders automation)).wp
        (inboxProtocol reads folders also) (fun r w => Q (r.map (result :: ·)) w) w) :
    ((path :: paths).mapM (processFile py env conv world alnum text folders automation)).wp
      (inboxProtocol reads folders also) Q w₀ := by
  rw [requestIdAt_eq hready.there] at hready hrest
  refine Prog.wp_mapM_cons.mpr (Prog.wp_mono (processFile_settles hworks hready hroot) ?_)
  rintro r w ⟨result, ending, rfl, hsettled, hrefused⟩
  exact hrest result ending w hsettled hrefused

theorem wp_processFiles (hworks : ∀ w e, also w e → Works reads w e)
    (hwaits : ∀ path ∈ paths, Waits py reads folders w₀ path)
    (hbeside : paths.Pairwise fun path other =>
      Beside py reads folders w₀ path other ∧ Beside py reads folders w₀ other path) :
    (paths.mapM (processFile py env conv world alnum text folders automation)).wp
      (inboxProtocol reads folders also) (fun r w => ∃ results, r = .ok results ∧
        List.Forall₂ (fun path result => ∃ ending,
          Ended folders w₀ w (requestIdAt py reads w₀ path) path ending result) paths results ∧
        Untouched py reads w₀ w paths) w₀ := by
  induction paths generalizing w₀ with
  | nil =>
    exact ⟨[], rfl, .nil, fun _ _ _ => rfl, fun _ _ => rfl⟩
  | cons path paths ih =>
    obtain ⟨hfirst, hrest⟩ := List.pairwise_cons.mp hbeside
    obtain ⟨file, hready, hroot⟩ := hwaits path List.mem_cons_self
    refine wp_processFiles_cons hworks hready hroot fun result ending w hsettled _ => ?_
    have hname (other) (hother : other ∈ paths) : path.name ≠ other.name := (hfirst other hother).1.name
    have hsame (other) (hother : other ∈ paths) :
        requestIdAt py reads w other = requestIdAt py reads w₀ other :=
      hsettled.requestIdAt_eq (hname other hother)
    have hwaits' (other) (hother : other ∈ paths) : Waits py reads folders w other :=
      (hwaits other (List.mem_cons_of_mem _ hother)).settled (hfirst other hother).1.toApart hready.folder_mem hsettled
    have hbeside' : paths.Pairwise fun other path' =>
        Beside py reads folders w other path' ∧ Beside py reads folders w path' other :=
      hrest.imp_of_mem fun hmem hmem' h =>
        ⟨h.1.settled (hname _ hmem) (hname _ hmem') hsettled, h.2.settled (hname _ hmem') (hname _ hmem) hsettled⟩
    refine Prog.wp_mono (ih hwaits' hbeside') ?_
    rintro r w' ⟨results, rfl, hended, huntouched⟩
    refine ⟨result :: results, rfl, .cons ⟨ending, ?_⟩ ?_, ?_⟩
    · refine (hsettled.ended hready.there).later (fun folder => ?_) ?_
      · exact huntouched.file folder _ fun other hother => (hname other hother).symm
      · refine huntouched.row _ fun other hother => ?_
        rw [hsame other hother]
        exact (hfirst other hother).1.id.symm
    · have hmem := (List.forall₂_and_left _ _).mpr ⟨fun other (hother : other ∈ paths) => hother, hended⟩
      refine hmem.imp fun other result => ?_
      rintro ⟨hother, ending, hend⟩
      rw [hsame other hother] at hend
      exact ⟨ending, hend.earlier fun folder => hsettled.file_of_name_ne (hname other hother) folder⟩
    · refine ⟨fun folder name hnames => ?_, fun id hids => ?_⟩
      · rw [huntouched.file folder name fun other hother => hnames other (List.mem_cons_of_mem _ hother)]
        exact hsettled.file_of_name_ne (hnames path List.mem_cons_self) folder
      · have hrest (other) (hother : other ∈ paths) : requestIdAt py reads w other ≠ id := by
          rw [hsame other hother]
          exact hids other (List.mem_cons_of_mem _ hother)
        exact (huntouched.row id hrest).trans (hsettled.held.row id (hids path List.mem_cons_self).symm)

end Run

end Gpucall.Inbox
