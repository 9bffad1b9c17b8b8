/-
TidyTree.Proofs.CommandLine.Reporting — options and environment only
steer what is reported.

What a run does is a list of events, and these are the same whatever is
asked for (`events_program`).  What it writes is read off the events:
the pieces that one threshold lets through are those of any wider one
without the lines below it (`shown_filter`), and standard output holds
what was printed, with the report behind it.
-/
import TidyTree.Proofs.CommandLine.Grammar
import TidyTree.Proofs.Runner.EntryPoints

namespace TidyTree

/-! ## 1. What is printed -/

/-- The text that a sign prints to a stream. -/
def Sign.printed? (stream : Stream) : Sign → Option String
  | printed s text => if s = stream then some text else none
  | record _ | launch _ => none

/-- What programs print to a stream in an event. -/
def Event.printed (stream : Stream) : Event → List String
  | call _ signs => signs.filterMap (Sign.printed? stream)
  | record _ | report _ => []

namespace CommandLine

/-- All that is written to a stream, in front of what more is written. -/
theorem written_append (stream : Stream) (clock : Clock) (n : Nat) (cs ds : List Chunk) :
    written stream clock n (cs ++ ds) =
      written stream clock n cs ++ written stream clock (n + cs.countP Chunk.isLog) ds := by
  induction cs generalizing n with
  | nil => simp [written]
  | cons c cs ih =>
    rw [List.cons_append, written, written, ih, String.append_assoc, List.countP_cons]
    split <;> simp [Nat.add_comm, Nat.add_left_comm]

/-- Where the pieces write texts that do not depend on the lines of the log before them, all that is
written is these texts. -/
theorem written_eq_join {stream : Stream} {clock : Clock} {text : Chunk → String}
    (h : ∀ c n, c.on stream clock n = text c) (n : Nat) (cs : List Chunk) :
    written stream clock n cs = String.join (cs.map text) := by
  induction cs generalizing n with
  | nil => rfl
  | cons c cs ih => rw [written, h, ih, List.map_cons, String.join_cons]

/-- The text that a piece writes to standard output. -/
def Chunk.output (clock : Clock) : Chunk → String
  | .log _ => ""
  | .text s t => if .output = s then t else ""
  | .report s colour => s.text clock.elapsed colour ++ "\n"

theorem on_output (clock : Clock) (c : Chunk) (n : Nat) :
    c.on .output clock n = c.output clock := by
  cases c <;> rfl

theorem output_logged (clock : Clock) (t : Threshold) (r : Record) :
    String.join ((logged t r).map (Chunk.output clock)) = "" := by
  unfold logged
  split <;> rfl

/-- Standard output gets of a sign what it prints there. -/
theorem output_chunksOfSign (clock : Clock) (t : Threshold) (s : Sign) :
    String.join ((chunksOfSign t s).map (Chunk.output clock)) =
      String.join (s.printed? .output).toList := by
  cases s with
  | record r => exact output_logged clock t r
  | launch i => rfl
  | printed stream text => cases stream <;> rfl

theorem join_flatMap_congr {α : Type} {f g : α → List String}
    (h : ∀ a, String.join (f a) = String.join (g a)) (as : List α) :
    String.join (as.flatMap f) = String.join (as.flatMap g) := by
  induction as with
  | nil => rfl
  | cons a as ih =>
    rw [List.flatMap_cons, List.flatMap_cons, String.join_append, String.join_append, h, ih]

/-- Standard output gets of events what is printed there, whatever the threshold. -/
theorem output_chunks (clock : Clock) (t : Threshold) (events : List Event) :
    String.join ((events.flatMap (chunksOfEvent t)).map (Chunk.output clock)) =
      String.join (events.flatMap (Event.printed .output)) := by
  rw [List.map_flatMap]
  refine join_flatMap_congr (fun e => ?_) events
  cases e with
  | record r => exact output_logged clock t r
  | call path signs =>
    rw [chunksOfEvent, Event.printed, List.map_flatMap, List.filterMap_eq_flatMap_toList]
    exact join_flatMap_congr (output_chunksOfSign clock t) signs
  | report outcome => rfl

/-! ## 2. What is shown -/

/-- The threshold lets the piece through; only lines of the log are held back. -/
def Chunk.passes (t : Threshold) : Chunk → Bool
  | .log r => t.admits r.level
  | .text _ _ | .report _ _ => true

/-- The pieces of a run that end in front of its report. -/
def shown (t : Threshold) (events : List Event) : List Chunk :=
  logged t (configRecord Config.default) ++ events.flatMap (chunksOfEvent t)

section Thresholds

variable {t t' : Threshold} (h : t.rank ≤ t'.rank)

include h

/-- A wider threshold lets through what a narrower one does. -/
theorem admits_of_rank_le {l : Level} (hl : t.admits l = true) : t'.admits l = true := by
  simp only [Threshold.admits, decide_eq_true_eq] at *
  exact Nat.le_trans hl h

theorem logged_filter (r : Record) : (logged t' r).filter (Chunk.passes t) = logged t r := by
  unfold logged
  by_cases hr : t.admits r.level = true
  · rw [if_pos hr, if_pos (admits_of_rank_le h hr)]
    simp [Chunk.passes, hr]
  · rw [if_neg hr]
    split <;> simp [Chunk.passes, hr]

theorem chunksOfEvent_filter (e : Event) :
    (chunksOfEvent t' e).filter (Chunk.passes t) = chunksOfEvent t e := by
  cases e with
  | record r => exact logged_filter h r
  | call path signs =>
    rw [chunksOfEvent, chunksOfEvent, List.filter_flatMap]
    refine List.flatMap_congr fun s _ => ?_
    cases s with
    | record r => exact logged_filter h r
    | launch i => rfl
    | printed stream text => rfl
  | report outcome => rfl

/-- What a narrower threshold shows is what a wider one shows without the lines it holds back. -/
theorem shown_filter (events : List Event) :
    (shown t' events).filter (Chunk.passes t) = shown t events := by
  rw [shown, shown, List.filter_append, logged_filter h, List.filter_flatMap]
  congr 1
  exact List.flatMap_congr fun e _ => chunksOfEvent_filter h e

end Thresholds

/-! ## 3. Runs of the program -/

section Programs

variable (launch : Launcher) (files : FileSystem) {o : Options} {arguments : List String}
  (env : Environment)

/-- A run of the program does what formatting the source directory does, and shows it. -/
theorem program_eq_formatTree (h : request arguments = .run o) :
    let t := program launch env arguments files
    let run := formatTree launch sourceDirectory files
    t.code = 0 ∧ t.events = run.events ∧ t.files = run.files ∧
      t.chunks = shown o.level run.events ++
        if o.quiet then [] else [.report run.summary (forcesColour env)] := by
  intro t run
  have ht : t = format launch o (forcesColour env) files := by
    simp only [t, program, h]
  obtain ⟨bar, hevents, hfiles, hchunks⟩ := format_eq_runWith launch o (forcesColour env) files
  rw [← ht] at hevents hfiles hchunks
  -- The progress bar only looks on.
  have hruns : ((Runner.ofConfig launch Config.default).runWith tick bar files).events =
        run.events ∧
      ((Runner.ofConfig launch Config.default).runWith tick bar files).summary = run.summary ∧
      ((Runner.ofConfig launch Config.default).runWith tick bar files).files = run.files := by
    obtain ⟨hsame, hsummary, hleft⟩ := (Runner.ofConfig launch Config.default).formatFiles_observed
      Observer.keepsFiles_silent (Observer.keepsFiles_keeping _)
      ((Runner.ofConfig launch Config.default).discover files).files () bar files
    exact ⟨congrArg (_ ++ ·) hsame, hsummary, hleft⟩
  rw [hruns.1] at hevents
  rw [hruns.2.2] at hfiles
  rw [hruns.1, hruns.2.1] at hchunks
  exact ⟨by rw [ht]; rfl, hevents, hfiles, hchunks⟩

/-- Standard output holds what was printed there, and behind it the report. -/
theorem on_output_program (h : request arguments = .run o) (clock : Clock) :
    (program launch env arguments files).on .output clock =
      String.join ((formatTree launch sourceDirectory files).events.flatMap
        (Event.printed .output)) ++
      if o.quiet then ""
      else (formatTree launch sourceDirectory files).summary.text clock.elapsed (forcesColour env)
        ++ "\n" := by
  obtain ⟨-, -, -, hchunks⟩ := program_eq_formatTree launch files env h
  rw [Transcript.on, written_eq_join (on_output clock), hchunks, shown, List.map_append,
    List.map_append, String.join_append, String.join_append, output_logged, output_chunks,
    String.empty_append]
  split
  · rfl
  · simp [Chunk.output]

/-- Of the pieces of a run, those that a threshold lets through write to standard error what is
shown under that threshold. -/
theorem error_chunks_filter (h : request arguments = .run o) {t : Threshold}
    (ht : t.rank ≤ o.level.rank) (clock : Clock) :
    written .error clock 0
        ((program launch env arguments files).chunks.filter (Chunk.passes t)) =
      written .error clock 0 (shown t (formatTree launch sourceDirectory files).events) := by
  obtain ⟨-, -, -, hchunks⟩ := program_eq_formatTree launch files env h
  rw [hchunks, List.filter_append, shown_filter ht, written_append]
  -- The report, if there is one, goes to standard output.
  split <;> exact String.append_empty

/-- Standard error holds the pieces that are shown. -/
theorem on_error_program (h : request arguments = .run o) (clock : Clock) :
    (program launch env arguments files).on .error clock =
      written .error clock 0 (shown o.level (formatTree launch sourceDirectory files).events) := by
  obtain ⟨-, -, -, hchunks⟩ := program_eq_formatTree launch files env h
  rw [Transcript.on, hchunks, written_append]
  split <;> exact String.append_empty

end Programs

/-! ## 4. Two runs -/

/-- **Options and environment only steer the report.**  Whatever programs do, as a function of the
search path, their arguments and the files, two runs under environments with the same search path
start the same programs, exit with the same code and leave the same files, whatever options they
were given.  Standard output holds what programs printed there and then, unless the run is quiet,
the report on the same summary.  The log depends on the level alone: a run shows what a more
talkative one shows, without the lines that its level holds back. -/
theorem options_steer_report (launch : Option String → Launcher) (files : FileSystem)
    {env env' : Environment} {arguments arguments' : List String} {o o' : Options}
    (h : Accepted arguments o) (h' : Accepted arguments' o')
    (hpath : env.value? "PATH" = env'.value? "PATH") :
    let t := program (launch (env.value? "PATH")) env arguments files
    let t' := program (launch (env'.value? "PATH")) env' arguments' files
    let printed := String.join (t.events.flatMap (Event.printed .output))
    let summary := Summary.ofEvents t.events
    (t.events.flatMap Event.invocations = t'.events.flatMap Event.invocations ∧
      t.code = t'.code ∧ t.files = t'.files) ∧
    (∀ clock,
      t.on .output clock = printed ++
        (if o.quiet then "" else summary.text clock.elapsed (forcesColour env) ++ "\n") ∧
      t'.on .output clock = printed ++
        (if o'.quiet then "" else summary.text clock.elapsed (forcesColour env') ++ "\n")) ∧
    (o.level.rank ≤ o'.level.rank →
      t.chunks.filterMap Chunk.record? =
        (t'.chunks.filterMap Chunk.record?).filter (fun r => o.level.admits r.level) ∧
      ∀ clock, t.on .error clock =
        written .error clock 0 (t'.chunks.filter (Chunk.passes o.level))) ∧
    (o.level = .off → t.chunks.filterMap Chunk.record? = []) := by
  intro t t' printed summary
  have hrun := request_eq_run_iff.mpr h
  have hrun' := request_eq_run_iff.mpr h'
  have hlaunch : launch (env'.value? "PATH") = launch (env.value? "PATH") := by rw [hpath]
  simp only [t, t', printed, summary, hlaunch]
  generalize launch (env.value? "PATH") = launch
  -- Both runs do what formatting the source directory does.
  obtain ⟨hcode, hevents, hfiles, -⟩ := program_eq_formatTree launch files env hrun
  obtain ⟨hcode', hevents', hfiles', -⟩ := program_eq_formatTree launch files env' hrun'
  have hsummary : (formatTree launch sourceDirectory files).summary =
      .ofEvents (formatTree launch sourceDirectory files).events :=
    Runner.summary_runWith _ .silent () files
  obtain ⟨-, hrecords, -⟩ := account_program launch files hrun env
  obtain ⟨-, hrecords', -⟩ := account_program launch files hrun' env'
  refine ⟨⟨?_, ?_, ?_⟩, fun clock => ⟨?_, ?_⟩, fun hrank => ⟨?_, fun clock => ?_⟩, fun hoff => ?_⟩
  · rw [hevents, hevents']
  · rw [hcode, hcode']
  · rw [hfiles, hfiles']
  · rw [on_output_program launch files env hrun, hevents, hsummary]
  · rw [on_output_program launch files env' hrun', hevents, hsummary]
  · rw [hrecords, hrecords', List.filter_filter]
    refine List.filter_congr fun r _ => ?_
    rw [Bool.eq_iff_iff, Bool.and_eq_true]
    exact ⟨fun hr => ⟨hr, admits_of_rank_le hrank hr⟩, And.left⟩
  · rw [on_error_program launch files env hrun, error_chunks_filter launch files env' hrun' hrank]
  · rw [hrecords, hoff, List.filter_eq_nil_iff]
    intro r _
    cases hl : r.level <;> decide

/-- In the example one run is quiet and in colour, and the other tells all; the search path leads
both to the same programs. -/
theorem sample_report_steered :
    let launch : Option String → Launcher := fun path => launcher (path.toList.map ("PATH", ·))
    let env : Environment := [("RUST_LOG", "trace"), ("PATH", "/bin"), ("CLICOLOR_FORCE", "1")]
    let env' : Environment := [("PATH", "/bin"), ("NO_COLOR", "1")]
    let t := program (launch (env.value? "PATH")) env ["--quiet", "--log-level=Warn"]
      FileSystem.sample
    let t' := program (launch (env'.value? "PATH")) env' ["--log-level", "debug", "--"]
      FileSystem.sample
    t.files = t'.files ∧ t.events.flatMap Event.invocations = t'.events.flatMap Event.invocations ∧
      t.chunks.filterMap Chunk.record? =
        (t'.chunks.filterMap Chunk.record?).filter
          (fun r => (Threshold.upTo .warn).admits r.level) ∧
      ∀ clock, t.on .output clock = String.join (t.events.flatMap (Event.printed .output)) := by
  intro launch env env' t t'
  have haccepted : Accepted ["--quiet", "--log-level=Warn"] ⟨true, .upTo .warn⟩ :=
    request_eq_run_iff.mp (by decide +kernel)
  have haccepted' : Accepted ["--log-level", "debug", "--"] ⟨false, .upTo .debug⟩ :=
    request_eq_run_iff.mp (by decide +kernel)
  have hpath : env.value? "PATH" = env'.value? "PATH" := by decide
  obtain ⟨⟨hinvocations, -, hfiles⟩, houtput, herror, -⟩ :=
    options_steer_report launch FileSystem.sample haccepted haccepted' hpath
  refine ⟨hfiles, hinvocations, (herror (by decide)).1, fun clock => ?_⟩
  exact (houtput clock).1.trans String.append_empty

end CommandLine

end TidyTree
