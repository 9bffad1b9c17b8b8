/-
TidyTree.Proofs.Runner.Snapshot — a run works on what was found at its
start.

The formatter and the observer may change the files at every step, also
those that are still to be formatted.  The files of a run are found
before the first call, so the calls are the same whatever happens, and
an observer that leaves the files alone leaves a fold of the formatter
over them (`Calls.foldl_invoke`).
-/
import TidyTree.Proofs.Runner.Trace

namespace TidyTree

variable {σ τ : Type}

/-! ## 1. Calls that change files -/

/-- The path of a call of the formatter. -/
def Event.called? : Event → Option String
  | call path _ => some path
  | record _ | report _ => none

/-- The state of the formatter and the files after a call. -/
def invoke (format : Formatter σ) (before : σ × FileSystem) (path : String) : σ × FileSystem :=
  ((format path before.1 before.2).state, (format path before.1 before.2).files)

/-- The observer never changes files. -/
def Observer.KeepsFiles (observe : Observer τ) : Prop :=
  ∀ outcome t files, (observe outcome t files).2 = files

theorem Observer.keepsFiles_silent : (Observer.silent : Observer τ).KeepsFiles :=
  fun _ _ _ => rfl

theorem Observer.keepsFiles_keeping (f : FileOutcome → τ → τ) :
    (Observer.keeping f).KeepsFiles :=
  fun _ _ _ => rfl

/-- Of the events of one call, one is the call. -/
theorem called_callEvents (path : String) (reply : Reply σ) :
    (callEvents path reply).filterMap Event.called? = [path] := by
  unfold callEvents
  split <;> rfl

namespace Calls

variable {format : Formatter σ} {observe : Observer τ} {w w' : World σ τ} {paths : List String}
  {replies : List (Reply σ)}

/-- The events of the calls name every path once, in order. -/
theorem called (h : Calls format observe w paths replies w') :
    ((paths.zip replies).flatMap (fun c => callEvents c.1 c.2)).filterMap Event.called? =
        paths := by
  rw [filterMap_callEvents called_callEvents]
  exact List.map_fst_zip (Nat.le_of_eq h.length_eq.symm)

/-- Where the observer keeps the files, the calls are a fold of the formatter over the paths. -/
theorem foldl_invoke (h : Calls format observe w paths replies w') (hkeep : observe.KeepsFiles) :
    (w'.formatter, w'.files) = paths.foldl (invoke format) (w.formatter, w.files) := by
  induction h with
  | done w => rfl
  | @call w w' path paths reply replies hreply _ ih =>
    have hfiles : (w.after observe path reply).files = reply.files := hkeep _ _ _
    rw [ih, List.foldl_cons, hfiles, hreply]
    rfl

end Calls

/-! ## 2. Programs that do not start -/

/-- A formatter whose program was not started has not changed the files. -/
def Formatter.StartsCleanly (format : Formatter σ) : Prop :=
  ∀ path s files program p e, (format path s files).outcome = .error (.spawn program p e) →
    (format path s files).files = files

/-- Nothing was formatted, and every error says that the program was not started. -/
def Summary.NoneStarted (s : Summary) : Prop :=
  s.formatted = 0 ∧ ∀ e ∈ s.failed, ∃ program path source, e = .spawn program path source

/-- The files after a launch, given those before. -/
def Launch.filesAfter (before : FileSystem) : Launch → FileSystem
  | notStarted _ => before
  | ended _ _ files => files

theorem Command.files_formatter (c : Command) (launch : Launcher) (path : String) (s : Unit)
    (files : FileSystem) :
    (c.formatter launch path s files).files =
      (launch (c.invocation path) files).filesAfter files := by
  unfold Command.formatter
  cases launch (c.invocation path) files with
  | notStarted e => rfl
  | ended status printed after =>
    dsimp only
    split <;> rfl

/-- The formatter that runs a command reports a start that failed only if the launch failed. -/
theorem Command.startsCleanly (c : Command) (launch : Launcher) :
    (c.formatter launch).StartsCleanly := by
  intro path s files program p e h
  rw [Command.files_formatter]
  unfold Command.formatter at h
  cases hl : launch (c.invocation path) files with
  | notStarted e => rfl
  | ended status printed after =>
    rw [hl] at h
    dsimp only at h
    split at h <;> simp at h

/-- The files a command leaves are those that its launches leave, one after the other. -/
theorem Command.foldl_invoke (c : Command) (launch : Launcher) (paths : List String) (s : Unit)
    (files : FileSystem) :
    (paths.foldl (invoke (c.formatter launch)) (s, files)).2 =
      paths.foldl (fun before path => (launch (c.invocation path) before).filesAfter before)
        files := by
  induction paths generalizing s files with
  | nil => rfl
  | cons path paths ih =>
    rw [List.foldl_cons, List.foldl_cons, ← Command.files_formatter c launch path s files]
    exact ih _ _

/-- Calls of which none was started leave the files as they were. -/
theorem Calls.files_eq {format : Formatter σ} {observe : Observer τ} {w w' : World σ τ}
    {paths : List String} {replies : List (Reply σ)}
    (h : Calls format observe w paths replies w') (hkeep : observe.KeepsFiles)
    (hclean : format.StartsCleanly)
    (hspawn : ∀ reply ∈ replies, ∃ program path e, reply.outcome = .error (.spawn program path e)) :
    w'.files = w.files := by
  induction h with
  | done w => rfl
  | @call w w' path paths reply replies hreply _ ih =>
    obtain ⟨program, p, e, hout⟩ := hspawn reply (List.mem_cons_self ..)
    have hrest := ih fun other hother => hspawn other (List.mem_cons_of_mem _ hother)
    have hfiles : (w.after observe path reply).files = reply.files := hkeep _ _ _
    rw [hrest, hfiles]
    subst hreply
    exact hclean path _ _ program p e hout

/-- If the outcomes give a summary in which nothing was started, each is such an error. -/
theorem outcome_of_noneStarted {replies : List (Reply σ)} {n : Nat}
    (h : Summary.NoneStarted ⟨n, (replies.map (·.outcome)).countP (·.isOk),
      (replies.map (·.outcome)).filterMap failure?⟩) :
    ∀ reply ∈ replies, ∃ program path e, reply.outcome = .error (.spawn program path e) := by
  intro reply hreply
  obtain ⟨hzero, hfailed⟩ := h
  have hmem : reply.outcome ∈ replies.map (·.outcome) := List.mem_map_of_mem hreply
  cases hout : reply.outcome with
  | ok u =>
    have hnot := List.countP_eq_zero.mp hzero _ hmem
    rw [hout] at hnot
    simp at hnot
  | error e =>
    obtain ⟨program, path, source, rfl⟩ :=
      hfailed e (List.mem_filterMap.mpr ⟨_, hmem, by rw [hout]; rfl⟩)
    exact ⟨program, path, source, rfl⟩

/-! ## 3. Runs -/

namespace Runner

/-- A run notes what it found, and then makes exactly the calls on the files found. -/
theorem runWith_calls (r : Runner σ) (observe : Observer τ) (t : τ) (files : FileSystem) :
    ∃ replies, Calls r.format observe ⟨files, r.state, t⟩ (r.discover files).files replies
        ⟨(r.runWith observe t files).files, (r.runWith observe t files).runner.state,
          (r.runWith observe t files).observer⟩ ∧
      (r.runWith observe t files).events = (r.discover files).records.map .record ++
        .record (r.foundRecord (r.discover files).files) ::
          ((r.discover files).files.zip replies).flatMap (fun c => callEvents c.1 c.2) ∧
      (r.runWith observe t files).summary = ⟨(r.discover files).files.length,
        (replies.map (·.outcome)).countP (·.isOk),
        (replies.map (·.outcome)).filterMap failure?⟩ := by
  obtain ⟨replies, hcalls, hevents, hresults⟩ :=
    formatEach_calls r.format observe (r.discover files).files ⟨files, r.state, t⟩
  refine ⟨replies, hcalls, ?_, ?_⟩
  · rw [← hevents]
    rfl
  · rw [← hresults]
    exact summary_formatFiles r observe (r.discover files).files t files

/-- The paths of the calls of a run are the files found. -/
theorem called_runWith (r : Runner σ) (observe : Observer τ) (t : τ) (files : FileSystem) :
    (r.runWith observe t files).events.filterMap Event.called? = (r.discover files).files := by
  obtain ⟨replies, hcalls, hevents, -⟩ := r.runWith_calls observe t files
  rw [hevents, List.filterMap_append, filterMap_records fun _ => rfl, List.nil_append]
  exact hcalls.called

/-- A run in which nothing was started leaves the files as they were. -/
theorem files_runWith_of_noneStarted (r : Runner σ) {observe : Observer τ}
    (hkeep : observe.KeepsFiles) (hclean : r.format.StartsCleanly) (t : τ) (files : FileSystem)
    (h : (r.runWith observe t files).summary.NoneStarted) :
    (r.runWith observe t files).files = files := by
  obtain ⟨replies, hcalls, -, hsummary⟩ := r.runWith_calls observe t files
  rw [hsummary] at h
  exact hcalls.files_eq hkeep hclean (outcome_of_noneStarted h)

end Runner

/-- **A run works on a snapshot.**  Whatever the formatter and the observer do to the files, a run
first notes what it found and then calls the formatter on exactly these files, in order and each
once.  If the observer keeps the files, those at the end are the first ones with the effects of
the calls applied in order; for a command these are the effects of its launches, and if none was
started nothing has changed. -/
theorem run_on_snapshot (r : Runner σ) (files : FileSystem) :
    (∀ (τ : Type) (observe : Observer τ) (t : τ),
      (r.runWith observe t files).events.filterMap Event.called? = (r.discover files).files ∧
      (∃ replies,
        Calls r.format observe ⟨files, r.state, t⟩ (r.discover files).files replies
          ⟨(r.runWith observe t files).files, (r.runWith observe t files).runner.state,
            (r.runWith observe t files).observer⟩ ∧
        (r.runWith observe t files).events = (r.discover files).records.map .record ++
          .record (r.foundRecord (r.discover files).files) ::
            ((r.discover files).files.zip replies).flatMap (fun c => callEvents c.1 c.2)) ∧
      (observe.KeepsFiles →
        ((r.runWith observe t files).runner.state, (r.runWith observe t files).files) =
          (r.discover files).files.foldl (invoke r.format) (r.state, files) ∧
        (r.format.StartsCleanly → (r.runWith observe t files).summary.NoneStarted →
          (r.runWith observe t files).files = files))) ∧
    (r.run files).events.filterMap Event.called? = (r.discover files).files ∧
    ((r.run files).runner.state, (r.run files).files) =
      (r.discover files).files.foldl (invoke r.format) (r.state, files) ∧
    ∀ (launch : Launcher) (c : Config),
      ((Runner.ofConfig launch c).run files).files =
        (TidyTree.discover files c.rootDir c.suffixes).files.foldl
          (fun before path =>
            (launch ((Command.ofConfig c).invocation path) before).filesAfter before) files ∧
      (((Runner.ofConfig launch c).run files).summary.NoneStarted →
        ((Runner.ofConfig launch c).run files).files = files) := by
  refine ⟨fun τ observe t => ⟨r.called_runWith observe t files, ?_, fun hkeep => ⟨?_, ?_⟩⟩,
    r.called_runWith .silent () files, ?_, fun launch c => ⟨?_, fun hnone => ?_⟩⟩
  · obtain ⟨replies, hcalls, hevents, -⟩ := r.runWith_calls observe t files
    exact ⟨replies, hcalls, hevents⟩
  · obtain ⟨replies, hcalls, -⟩ := r.runWith_calls observe t files
    exact hcalls.foldl_invoke hkeep
  · intro hclean hnone
    exact r.files_runWith_of_noneStarted hkeep hclean t files hnone
  · obtain ⟨replies, hcalls, -⟩ := r.runWith_calls .silent () files
    exact hcalls.foldl_invoke Observer.keepsFiles_silent
  · obtain ⟨replies, hcalls, -⟩ := (Runner.ofConfig launch c).runWith_calls .silent () files
    have hfold := congrArg Prod.snd (hcalls.foldl_invoke Observer.keepsFiles_silent)
    exact hfold.trans ((Command.ofConfig c).foldl_invoke launch _ () files)
  · exact (Runner.ofConfig launch c).files_runWith_of_noneStarted Observer.keepsFiles_silent
      ((Command.ofConfig c).startsCleanly launch) () files hnone

end TidyTree
