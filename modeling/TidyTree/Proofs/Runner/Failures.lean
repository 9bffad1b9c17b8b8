/-
TidyTree.Proofs.Runner.Failures — the three reports of failures agree.

A failure is told three times: it is noted in the log and handed to the
observer while files are formatted, and the report on the summary has an
entry for it at the end.  All three are read off the replies of the
formatter (`Calls.filterMap_events`), so they are the same list.
-/
import TidyTree.Proofs.Runner.Trace
import TidyTree.Proofs.Summary.Reading

namespace TidyTree

variable {σ τ : Type}

/-! ## 1. Failures in events -/

namespace Event

/-- The message of a warning of the run itself. -/
def warning? : Event → Option String
  | record r => if r.level = .warn then some r.message else none
  | call _ _ | report _ => none

/-- What was handed to the observer. -/
def outcome? : Event → Option FileOutcome
  | report outcome => some outcome
  | record _ | call _ _ => none

end Event

/-- The text of the error of an outcome. -/
def FileOutcome.failureText? (o : FileOutcome) : Option String :=
  (failure? o.result).map FormatError.text

/-- What is picked from the events of calls, if it is picked from the reply of each. -/
theorem Calls.filterMap_events {format : Formatter σ} {observe : Observer τ} {w w' : World σ τ}
    {paths : List String} {replies : List (Reply σ)}
    (h : Calls format observe w paths replies w') {α : Type} {f : Event → Option α}
    {g : Reply σ → Option α}
    (hf : ∀ path reply, (callEvents path reply).filterMap f = (g reply).toList) :
    ((paths.zip replies).flatMap fun c => callEvents c.1 c.2).filterMap f =
      replies.filterMap g := by
  induction h with
  | done w => rfl
  | @call w _ path paths reply replies _ _ ih =>
    rw [List.zip_cons_cons, List.flatMap_cons, List.filterMap_append, hf, ih]
    cases hg : g reply <;> simp [hg]

/-- A call gives one warning with the text of its error, if it failed. -/
theorem warning_callEvents (path : String) (reply : Reply σ) :
    (callEvents path reply).filterMap Event.warning? =
      ((failure? reply.outcome).map FormatError.text).toList := by
  unfold callEvents
  split
  · next h => rw [h]; rfl
  · next e h => rw [h]; rfl

/-- A call hands one error to the observer, if it failed. -/
theorem failureText_callEvents (path : String) (reply : Reply σ) :
    (callEvents path reply).filterMap (fun e => e.outcome?.bind FileOutcome.failureText?) =
      ((failure? reply.outcome).map FormatError.text).toList := by
  unfold callEvents
  split
  · next h => rw [h]; rfl
  · next e h => rw [h]; rfl

/-! ## 2. An observer that keeps what it is told -/

/-- The observer does what it did, and keeps the outcomes it is told. -/
def Observer.noting (observe : Observer τ) : Observer (τ × List FileOutcome) :=
  fun outcome t files =>
    let (t', files') := observe outcome t.1 files
    ((t', t.2 ++ [outcome]), files')

/-- Of the events of one call, one is handed to the observer. -/
theorem outcomes_call (path : String) (signs : List Sign) (result : Except FormatError Unit)
    (events : List Event) :
    (Event.call path signs :: (failureEvents result ++ .report ⟨path, result⟩ ::
      events)).filterMap Event.outcome? = ⟨path, result⟩ :: events.filterMap Event.outcome? := by
  cases result <;> rfl

/-- What is kept are the outcomes in the events, and the run is the same. -/
theorem formatEach_noting (format : Formatter σ) (observe : Observer τ) (paths : List String)
    (files : FileSystem) (s : σ) (t : τ) (told : List FileOutcome) :
    let plain := formatEach format observe paths ⟨files, s, t⟩
    let noting := formatEach format observe.noting paths ⟨files, s, (t, told)⟩
    noting.events = plain.events ∧ noting.results = plain.results ∧
      noting.world.files = plain.world.files ∧ noting.world.formatter = plain.world.formatter ∧
      noting.world.observer =
        (plain.world.observer, told ++ plain.events.filterMap Event.outcome?) := by
  induction paths generalizing files s t told with
  | nil => simp [formatEach]
  | cons path paths ih =>
    let outcome : FileOutcome := ⟨path, (format path s files).outcome⟩
    obtain ⟨hevents, hresults, hfiles, hformatter, hobserver⟩ :=
      ih (observe outcome t (format path s files).files).2 (format path s files).state
        (observe outcome t (format path s files).files).1 (told ++ [outcome])
    refine ⟨?_, ?_, hfiles, hformatter, hobserver.trans ?_⟩
    · simp only [formatEach, Observer.noting, outcome] at hevents ⊢
      rw [hevents]
    · simp only [formatEach, Observer.noting, outcome] at hresults ⊢
      rw [hresults]
    · simp only [formatEach, outcomes_call, outcome, List.append_assoc, List.singleton_append]

/-! ## 3. The reports -/

/-- The warnings of a run, the errors handed to its observer and those of its summary say the
same. -/
theorem Runner.failures_formatFiles (r : Runner σ) (observe : Observer τ) (paths : List String)
    (t : τ) (files : FileSystem) :
    let run := r.formatFiles observe paths t files
    run.events.filterMap Event.warning? = run.summary.failed.map FormatError.text ∧
      run.events.filterMap (fun e => e.outcome?.bind FileOutcome.failureText?) =
        run.summary.failed.map FormatError.text := by
  intro run
  obtain ⟨replies, hcalls, hevents, hresults⟩ :=
    formatEach_calls r.format observe paths ⟨files, r.state, t⟩
  have hfailed : run.summary.failed.map FormatError.text =
      replies.filterMap fun reply => (failure? reply.outcome).map FormatError.text := by
    simp only [run, summary_formatFiles, hresults, List.filterMap_map, List.map_filterMap]
    rfl
  rw [hfailed]
  constructor
  · rw [← hcalls.filterMap_events warning_callEvents, ← hevents]
    rfl
  · rw [← hcalls.filterMap_events failureText_callEvents, ← hevents]
    rfl

/-- **The reports of failures agree.**  Whatever the formatter does, the warnings of a run, the
errors handed to its observer (whatever that does besides) and the entries of the report on its
summary say the same in the same order.  The number behind the label of the failures is their
number, in colour that label is green if there are none and red otherwise, and the number of the
files found is that of the files formatted and of the failures together. -/
theorem failure_reports_agree (r : Runner σ) (observe : Observer τ) (paths : List String) (t : τ)
    (files : FileSystem) (elapsed : Duration) (colour : Bool) :
    let run := r.formatFiles observe paths t files
    let text := run.summary.text elapsed colour
    let failures := run.events.filterMap Event.warning?
    run.events.filterMap (fun e => e.outcome?.bind FileOutcome.failureText?) = failures ∧
    (r.formatFiles observe.noting paths (t, []) files).observer.2.filterMap
      FileOutcome.failureText? = failures ∧
    Report.belowLineOf "Time elapsed:" text =
      some (String.join (failures.map (Report.entry colour))) ∧
    Report.numberAfter "Files failed:" text = some failures.length ∧
    (colour = true →
      (Report.PaintedIn "32" "Files failed:" text ↔ failures = []) ∧
      (Report.PaintedIn "31" "Files failed:" text ↔ failures ≠ [])) ∧
    ∃ found formatted, Report.numberAfter "Files found:" text = some found ∧
      Report.numberAfter "Files formatted:" text = some formatted ∧
      found = formatted + failures.length := by
  intro run text failures
  obtain ⟨hwarnings, hreported⟩ := r.failures_formatFiles observe paths t files
  have hnoted : (r.formatFiles observe.noting paths (t, []) files).observer.2 =
      run.events.filterMap Event.outcome? := by
    obtain ⟨-, -, -, -, hobserver⟩ := formatEach_noting r.format observe paths files r.state t []
    exact congrArg Prod.snd hobserver
  have hfailed : failures = run.summary.failed.map FormatError.text := hwarnings
  have hlength : failures.length = run.summary.failed.length := by
    rw [hfailed, List.length_map]
  have hnone : run.summary.failed = [] ↔ failures = [] := by
    rw [hfailed, List.map_eq_nil_iff]
  refine ⟨hreported.trans hwarnings.symm, ?_, ?_, ?_, ?_, ?_⟩
  · rw [hnoted, List.filterMap_filterMap]
    exact hreported.trans hwarnings.symm
  · rw [Report.belowLineOf_elapsed, hfailed, List.map_map]
    rfl
  · rw [Report.numberAfter_failed, hlength]
  · rintro rfl
    exact ⟨(Report.paintedIn_green_iff ..).trans hnone,
      (Report.paintedIn_red_iff ..).trans (not_congr hnone)⟩
  · refine ⟨_, _, Report.numberAfter_found .., Report.numberAfter_formatted .., ?_⟩
    rw [hlength]
    exact (discovered_formatFiles r observe paths t files).trans
      (balance_formatFiles r observe paths t files).symm

end TidyTree
