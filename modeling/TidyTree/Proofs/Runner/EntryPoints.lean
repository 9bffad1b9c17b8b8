/-
TidyTree.Proofs.Runner.EntryPoints — all ways to format a tree come to
the same.

What a run comes to is its `Account`: the programs it asked the system
to start, the records, the summary and the files.  An observer that
leaves the files alone has no part in it (`Calls.observed`), so it does
not matter whether nothing, a progress bar or anything else looks on;
the program only chooses which records and whether the summary are
shown.
-/
import TidyTree.CommandLine.Program
import TidyTree.Proofs.FileSystem.WellFormed
import TidyTree.Proofs.Runner.Snapshot
import TidyTree.Session

namespace TidyTree

variable {σ τ τ' : Type}

/-! ## 1. Accounts -/

/-- The record that a sign of the formatter is. -/
def Sign.record? : Sign → Option Record
  | record r => some r
  | launch _ | printed _ _ => none

/-- The invocation that a sign of the formatter is. -/
def Sign.invocation? : Sign → Option Invocation
  | launch i => some i
  | record _ | printed _ _ => none

namespace Event

/-- The records of an event. -/
def records : Event → List Record
  | record r => [r]
  | call _ signs => signs.filterMap Sign.record?
  | report _ => []

/-- The programs that were to be started in an event. -/
def invocations : Event → List Invocation
  | call _ signs => signs.filterMap Sign.invocation?
  | record _ | report _ => []

/-- The result that an event reports. -/
def result? : Event → Option (Except FormatError Unit)
  | report outcome => some outcome.result
  | record _ | call _ _ => none

end Event

/-- The summary of the results that were reported. -/
def Summary.ofEvents (events : List Event) : Summary :=
  let results := events.filterMap Event.result?
  results.foldl Summary.record (.start results.length)

/-- What formatting a tree comes to: the programs to be started and the records in the order in
which they came, the summary, and the files at the end. -/
structure Account where
  invocations : List Invocation
  records : List Record
  summary : Summary
  files : FileSystem

/-- The account of some events, a summary and the files at the end. -/
def Account.of (events : List Event) (summary : Summary) (files : FileSystem) : Account :=
  ⟨events.flatMap Event.invocations, events.flatMap Event.records, summary, files⟩

/-- The account of a run. -/
def Run.account (r : Run σ τ) : Account := .of r.events r.summary r.files

/-! ## 2. Observers -/

/-- Another observer sees the same calls, if neither changes files. -/
theorem Calls.observed {format : Formatter σ} {observe : Observer τ} {observe' : Observer τ'}
    {w w' : World σ τ} {v : World σ τ'} {paths : List String} {replies : List (Reply σ)}
    (h : Calls format observe w paths replies w') (hkeep : observe.KeepsFiles)
    (hkeep' : observe'.KeepsFiles) (hfiles : v.files = w.files)
    (hstate : v.formatter = w.formatter) :
    ∃ v', Calls format observe' v paths replies v' ∧ v'.files = w'.files ∧
      v'.formatter = w'.formatter := by
  -- The two worlds differ in the state of the observer at most, after each call as before it.
  induction h generalizing v with
  | done w => exact ⟨v, .done v, hfiles, hstate⟩
  | @call w w' path paths reply replies hreply _ ih =>
    have hafter : (v.after observe' path reply).files = (w.after observe path reply).files :=
      (hkeep' _ _ _).trans (hkeep _ _ _).symm
    obtain ⟨v', hcalls, hlast⟩ := ih hafter rfl
    exact ⟨v', .call (by rw [hreply, hstate, hfiles]) hcalls, hlast⟩

/-- Observers that leave the files alone have no part in what formatting a list comes to. -/
theorem Runner.formatFiles_observed (r : Runner σ) {observe : Observer τ}
    {observe' : Observer τ'} (hkeep : observe.KeepsFiles) (hkeep' : observe'.KeepsFiles)
    (paths : List String) (t : τ) (t' : τ') (files : FileSystem) :
    (r.formatFiles observe' paths t' files).events = (r.formatFiles observe paths t files).events ∧
      (r.formatFiles observe' paths t' files).summary =
        (r.formatFiles observe paths t files).summary ∧
      (r.formatFiles observe' paths t' files).files =
        (r.formatFiles observe paths t files).files := by
  obtain ⟨replies, hcalls, hevents, hresults⟩ :=
    formatEach_calls r.format observe paths ⟨files, r.state, t⟩
  obtain ⟨replies', hcalls', hevents', hresults'⟩ :=
    formatEach_calls r.format observe' paths ⟨files, r.state, t'⟩
  obtain ⟨v', hobserved, hfiles, -⟩ :=
    hcalls.observed (v := ⟨files, r.state, t'⟩) hkeep hkeep' rfl rfl
  obtain ⟨rfl, rfl⟩ := hcalls'.unique hobserved
  refine ⟨?_, ?_, hfiles⟩
  · rw [events_formatFiles, events_formatFiles, hevents, hevents']
  · rw [summary_formatFiles, summary_formatFiles, hresults, hresults']

theorem Runner.account_runWith (r : Runner σ) {observe : Observer τ} {observe' : Observer τ'}
    (hkeep : observe.KeepsFiles) (hkeep' : observe'.KeepsFiles) (t : τ) (t' : τ')
    (files : FileSystem) :
    (r.runWith observe' t' files).account = (r.runWith observe t files).account := by
  obtain ⟨hevents, hsummary, hfiles⟩ :=
    r.formatFiles_observed hkeep hkeep' (r.discover files).files t t' files
  simp only [Run.account, Runner.runWith, hevents, hsummary, hfiles]

/-! ## 3. Summaries and invocations from events -/

/-- Of the events of one call, one reports the outcome. -/
theorem results_callEvents (path : String) (reply : Reply σ) :
    (callEvents path reply).filterMap Event.result? = [reply.outcome] := by
  unfold callEvents
  split
  · next h => rw [h]; rfl
  · next e h => rw [h]; rfl

theorem Calls.results {format : Formatter σ} {observe : Observer τ} {w w' : World σ τ}
    {paths : List String} {replies : List (Reply σ)}
    (h : Calls format observe w paths replies w') :
    ((paths.zip replies).flatMap (fun c => callEvents c.1 c.2)).filterMap Event.result? =
      replies.map (·.outcome) := by
  have hreplies : (paths.zip replies).map Prod.snd = replies :=
    List.map_snd_zip (Nat.le_of_eq h.length_eq)
  rw [filterMap_callEvents results_callEvents]
  conv_rhs => rw [← hreplies, List.map_map]
  rfl

/-- The summary of a run is that of its reports. -/
theorem Runner.summary_runWith (r : Runner σ) (observe : Observer τ) (t : τ)
    (files : FileSystem) :
    (r.runWith observe t files).summary = Summary.ofEvents (r.runWith observe t files).events := by
  obtain ⟨replies, hcalls, hevents, hsummary⟩ := r.runWith_calls observe t files
  have hresults : (r.runWith observe t files).events.filterMap Event.result? =
      replies.map (·.outcome) := by
    rw [hevents, List.filterMap_append, filterMap_records fun _ => rfl, List.nil_append]
    exact hcalls.results
  rw [Summary.ofEvents, hresults, foldl_record, hsummary]
  simp [Summary.start, hcalls.length_eq]

theorem invocations_callEvents (path : String) (reply : Reply σ) :
    (callEvents path reply).flatMap Event.invocations =
      reply.signs.filterMap Sign.invocation? := by
  unfold callEvents
  split <;> simp [Event.invocations]

theorem invocations_records (records : List Record) :
    (records.map Event.record).flatMap Event.invocations = [] := by
  rw [List.flatMap_map, List.flatMap_eq_nil_iff]
  intro r _
  rfl

namespace Command

variable (c : Command) (launch : Launcher)

theorem invocations_printed (printed : List (Stream × String)) :
    (printed.map fun (stream, text) => Sign.printed stream text).filterMap Sign.invocation? =
      [] := by
  rw [List.filterMap_map, List.filterMap_eq_nil_iff]
  intro p _
  rfl

/-- The formatter of a command asks the system for one program, whatever becomes of it. -/
theorem invocations_formatter (path : String) (s : Unit) (files : FileSystem) :
    (c.formatter launch path s files).signs.filterMap Sign.invocation? = [c.invocation path] := by
  unfold Command.formatter
  cases launch (c.invocation path) files with
  | notStarted e => rfl
  | ended status printed after =>
    dsimp only
    split <;> simp only [List.filterMap_append, invocations_printed, List.append_nil] <;> rfl

/-- A command is started once on each path, in order. -/
theorem invocations_calls {observe : Observer τ} {w w' : World Unit τ} {paths : List String}
    {replies : List (Reply Unit)} (h : Calls (c.formatter launch) observe w paths replies w') :
    ((paths.zip replies).flatMap (fun c => callEvents c.1 c.2)).flatMap Event.invocations =
      paths.map c.invocation := by
  induction h with
  | done w => rfl
  | @call w _ path _ _ _ hreply _ ih =>
    rw [List.zip_cons_cons, List.flatMap_cons, List.flatMap_append, ih, invocations_callEvents,
      hreply, c.invocations_formatter]
    rfl

end Command

/-- A run starts the command of its configuration once on each file found, in order. -/
theorem Runner.invocations_run (launch : Launcher) (c : Config) (files : FileSystem) :
    ((Runner.ofConfig launch c).run files).account.invocations =
      (TidyTree.discover files c.rootDir c.suffixes).files.map
        (Command.ofConfig c).invocation := by
  obtain ⟨replies, hcalls, hevents, -⟩ :=
    (Runner.ofConfig launch c).runWith_calls .silent () files
  have hinvocations := (Command.ofConfig c).invocations_calls launch hcalls
  rw [Runner.run, Run.account, Account.of, hevents, List.flatMap_append, invocations_records,
    List.nil_append, List.flatMap_cons]
  exact hinvocations

/-! ## 4. The program -/

namespace CommandLine

/-- The record that a piece shows. -/
def Chunk.record? : Chunk → Option Record
  | log r => some r
  | text _ _ | report _ _ => none

/-- The summary that a piece shows. -/
def Chunk.summary? : Chunk → Option Summary
  | report s _ => some s
  | log _ | text _ _ => none

/-- The program is a run with a progress bar as its observer, of which only the pieces depend on
the options. -/
theorem format_eq_runWith (launch : Launcher) (o : Options) (colour : Bool)
    (files : FileSystem) :
    ∃ bar : Option ProgressBar,
      let run := (Runner.ofConfig launch Config.default).runWith tick bar files
      (format launch o colour files).events = run.events ∧
      (format launch o colour files).files = run.files ∧
      (format launch o colour files).chunks = logged o.level (configRecord Config.default) ++
        run.events.flatMap (chunksOfEvent o.level) ++
        if o.quiet then [] else [.report run.summary colour] :=
  ⟨_, rfl, rfl, rfl⟩

theorem record_logged (t : Threshold) (r : Record) :
    (logged t r).filterMap Chunk.record? = [r].filter fun r => t.admits r.level := by
  unfold logged
  cases h : t.admits r.level <;> simp [Chunk.record?, h]

theorem summary_logged (t : Threshold) (r : Record) :
    (logged t r).filterMap Chunk.summary? = [] := by
  unfold logged
  split <;> rfl

/-- The log lines of a sign are its record, if the threshold lets it through. -/
theorem record_chunksOfSign (t : Threshold) (s : Sign) :
    (chunksOfSign t s).filterMap Chunk.record? =
      s.record?.toList.filter fun r => t.admits r.level := by
  cases s with
  | record r => exact record_logged t r
  | launch i => rfl
  | printed stream text => rfl

/-- The log lines of events are their records as far as the threshold lets them through. -/
theorem record_chunks (t : Threshold) (events : List Event) :
    (events.flatMap (chunksOfEvent t)).filterMap Chunk.record? =
      (events.flatMap Event.records).filter fun r => t.admits r.level := by
  rw [List.filterMap_flatMap, List.filter_flatMap]
  refine List.flatMap_congr fun e _ => ?_
  cases e with
  | record r => exact record_logged t r
  | call path signs =>
    rw [chunksOfEvent, Event.records, List.filterMap_flatMap, List.filterMap_eq_flatMap_toList,
      List.filter_flatMap]
    exact List.flatMap_congr fun s _ => record_chunksOfSign t s
  | report outcome => rfl

/-- No event shows a summary. -/
theorem summary_chunks (t : Threshold) (events : List Event) :
    (events.flatMap (chunksOfEvent t)).filterMap Chunk.summary? = [] := by
  rw [List.filterMap_flatMap, List.flatMap_eq_nil_iff]
  intro e _
  cases e with
  | record r => exact summary_logged t r
  | call path signs =>
    rw [chunksOfEvent, List.filterMap_flatMap, List.flatMap_eq_nil_iff]
    intro s _
    cases s with
    | record r => exact summary_logged t r
    | launch i => rfl
    | printed stream text => rfl
  | report outcome => rfl

/-- Every combination of options can be asked for. -/
theorem exists_request (o : Options) : ∃ arguments, request arguments = .run o := by
  -- The levels are those of a closed table, so all requests can be evaluated.
  have hnames : ∀ n ∈ Threshold.names, ∀ quiet : Bool,
      request (["--log-level", n.1] ++ if quiet then ["--quiet"] else []) = .run ⟨quiet, n.2⟩ := by
    decide +kernel
  have hnamed : ∃ n ∈ Threshold.names, n.2 = o.level := by
    cases o.level with
    | off => decide
    | upTo l => cases l <;> decide
  obtain ⟨n, hmem, hlevel⟩ := hnamed
  refine ⟨_, (hnames n hmem o.quiet).trans ?_⟩
  rw [hlevel]

/-- What the program does and shows, against a run in the source directory. -/
theorem account_program (launch : Launcher) (files : FileSystem) {o : Options}
    {arguments : List String} (hrequest : request arguments = .run o) (env : Environment) :
    let whole := (formatTree launch sourceDirectory files).account
    let t := program launch env arguments files
    Account.of t.events (.ofEvents t.events) t.files = whole ∧
      t.chunks.filterMap Chunk.record? =
        (configRecord Config.default :: whole.records).filter (fun r => o.level.admits r.level) ∧
      t.chunks.filterMap Chunk.summary? = if o.quiet then [] else [whole.summary] := by
  intro whole t
  have ht : t = format launch o (forcesColour env) files := by
    simp only [t, program, hrequest]
  obtain ⟨bar, hevents, hfiles, hchunks⟩ := format_eq_runWith launch o (forcesColour env) files
  have hwhole : ((Runner.ofConfig launch Config.default).runWith tick bar files).account = whole :=
    (Runner.ofConfig launch Config.default).account_runWith Observer.keepsFiles_silent
      (Observer.keepsFiles_keeping _) () bar files
  rw [← ht] at hevents hfiles hchunks
  refine ⟨?_, ?_, ?_⟩
  · rw [hevents, hfiles, ← Runner.summary_runWith]
    exact hwhole
  · rw [hchunks, List.filterMap_append, List.filterMap_append, record_logged, record_chunks,
      ← hwhole, ← List.filter_append]
    split <;> exact List.append_nil _
  · rw [hchunks, List.filterMap_append, List.filterMap_append, summary_logged, summary_chunks,
      ← hwhole]
    split <;> rfl

end CommandLine

/-! ## 5. The entry points -/

open CommandLine in
/-- **The entry points agree.**  Whatever the program that formats does, formatting the tree below
a root starts the same programs, notes the same records, gives the same summary and leaves the same
files: by itself, as a run of a runner with or without an observer that leaves the files alone, or
as a search followed by formatting what was found.  For the source directory that is also what a
run with nothing set comes to, and what the program does with every choice of options: its log is
its own record and the others, as far as the level lets them through, and its report shows the
summary unless it is to be quiet. -/
theorem entry_points_agree (launch : Launcher) (root : String) (files : FileSystem) :
    let runner := Runner.ofConfig launch { Config.default with rootDir := root }
    let whole := (formatTree launch root files).account
    whole.invocations = (TidyTree.discover files root sourceSuffixes).files.map
        (fun path => ⟨clangFormat, [inPlaceFlag, path]⟩) ∧
      (runner.run files).account = whole ∧
      (∀ (τ : Type) (observe : Observer τ) (t : τ), observe.KeepsFiles →
        (runner.runWith observe t files).account = whole ∧
        let found := (⟨runner, observe, t, files⟩ : Session Unit τ).discover
        ∃ paths, found.answer = .found paths ∧
          let formatted := found.session.formatFiles paths
          formatted.answer = .done whole.summary ∧
          Account.of (found.events ++ formatted.events) whole.summary formatted.session.files =
            whole) ∧
      (root = sourceDirectory →
        ((⟨Config.default, Command.default.formatter launch, ()⟩ : Runner Unit).run
          files).account = whole ∧
        ∀ o : Options, (∃ arguments, request arguments = .run o) ∧
          ∀ (env : Environment) (arguments : List String), request arguments = .run o →
            let t := program launch env arguments files
            Account.of t.events (.ofEvents t.events) t.files = whole ∧
            t.chunks.filterMap Chunk.record? = (configRecord Config.default :: whole.records).filter
              (fun r => o.level.admits r.level) ∧
            t.chunks.filterMap Chunk.summary? = if o.quiet then [] else [whole.summary]) := by
  intro runner whole
  have hobserved : ∀ (τ : Type) (observe : Observer τ) (t : τ), observe.KeepsFiles →
      (runner.runWith observe t files).account = whole := fun τ observe t hkeep =>
    runner.account_runWith Observer.keepsFiles_silent hkeep () t files
  refine ⟨?_, rfl, fun τ observe t hkeep => ⟨hobserved τ observe t hkeep, ?_⟩, ?_⟩
  · exact Runner.invocations_run launch { Config.default with rootDir := root } files
  · have hsummary := congrArg Account.summary (hobserved τ observe t hkeep)
    refine ⟨_, rfl, congrArg Answer.done hsummary, ?_⟩
    rw [← hobserved τ observe t hkeep]
    rfl
  · rintro rfl
    refine ⟨rfl, fun o => ⟨exists_request o, fun env arguments hrequest => ?_⟩⟩
    exact account_program launch files hrequest env

/-- A program that makes every file its own and leaves it empty. -/
def sampleLaunch : Launcher := fun i files =>
  .ended (.exit 0) [(.output, i.program)]
    { files with contents := files.contents.map fun _ => .ofText "" false }

/-- In the example the program is quiet and shows no more than warnings, and an observer collects
the paths; both come to what formatting the tree comes to. -/
theorem sample_agree :
    let whole := (formatTree sampleLaunch "src" FileSystem.sample).account
    let t := CommandLine.program sampleLaunch [("PATH", "/bin")] ["--quiet", "--log-level", "WARN"]
      FileSystem.sample
    t.files = whole.files ∧ t.events.flatMap Event.invocations = whole.invocations ∧
      t.chunks.filterMap CommandLine.Chunk.summary? = [] ∧
      ((Runner.ofConfig sampleLaunch { Config.default with rootDir := "src" }).runWith
        (.keeping fun outcome seen => outcome.path :: seen) [] FileSystem.sample).account =
          whole := by
  intro whole t
  obtain ⟨-, -, hobserved, hprogram⟩ := entry_points_agree sampleLaunch "src" FileSystem.sample
  have hrequest : CommandLine.request ["--quiet", "--log-level", "WARN"] =
      .run ⟨true, .upTo .warn⟩ := by decide +kernel
  obtain ⟨haccount, -, hsummary⟩ :=
    ((hprogram rfl).2 ⟨true, .upTo .warn⟩).2 [("PATH", "/bin")] _ hrequest
  exact ⟨congrArg Account.files haccount, congrArg Account.invocations haccount, hsummary,
    (hobserved _ _ [] (Observer.keepsFiles_keeping _)).1⟩

end TidyTree
