/-
TidyTree.Proofs.Runner.Pieces — formatting a list piece by piece.

A run keeps nothing of its own while it formats: what a call finds is the
world that the call before left, and a summary only counts and collects.
So the loop over two lists is the loop over the first and then, in the
world at its end, over the second (`formatEach_append`), and the
summaries add up.  What tells the two apart is the record with which each
run begins, and no other (`events_eq_foundRecord_cons`).  For any number
of pieces the same follows by induction on them.
-/
import TidyTree.Proofs.Runner.Trace
import TidyTree.Session

namespace TidyTree

variable {σ τ : Type}

/-! ## 1. Summaries added up -/

namespace Summary

/-- Two summaries together: the counts are added, and the errors stand one after the other. -/
instance : Add Summary where
  add s s' := ⟨s.discovered + s'.discovered, s.formatted + s'.formatted, s.failed ++ s'.failed⟩

instance : Zero Summary where
  zero := .empty

theorem add_eq (s s' : Summary) :
    s + s' = ⟨s.discovered + s'.discovered, s.formatted + s'.formatted, s.failed ++ s'.failed⟩ :=
  rfl

/-- The whole is clean exactly if both parts are. -/
theorem isClean_add (s s' : Summary) :
    (s + s').isClean = true ↔ s.isClean = true ∧ s'.isClean = true := by
  rw [isClean_iff, isClean_iff, isClean_iff]
  exact List.append_eq_nil_iff

theorem isClean_sum (summaries : List Summary) :
    summaries.sum.isClean = true ↔ ∀ s ∈ summaries, s.isClean = true := by
  induction summaries with
  | nil => exact iff_of_true rfl (List.forall_mem_nil _)
  | cons s summaries ih => rw [List.sum_cons, isClean_add, ih, List.forall_mem_cons]

end Summary

/-! ## 2. Events but for information -/

/-- Whether an event is a record that only informs. -/
def Event.informs : Event → Bool
  | record r => r.level = .info
  | call _ _ | report _ => false

/-- The events without the records that only inform. -/
def withoutInfo (events : List Event) : List Event := events.filter (!·.informs)

theorem informs_callEvents (path : String) (reply : Reply σ) :
    ∀ e ∈ callEvents path reply, e.informs = false := by
  unfold callEvents
  split <;> simp [Event.informs]

/-- The loop makes no record that only informs. -/
theorem withoutInfo_formatEach (format : Formatter σ) (observe : Observer τ) (paths : List String)
    (w : World σ τ) :
    withoutInfo (formatEach format observe paths w).events =
      (formatEach format observe paths w).events := by
  obtain ⟨replies, -, hevents, -⟩ := formatEach_calls format observe paths w
  rw [hevents, withoutInfo, List.filter_eq_self]
  intro e he
  obtain ⟨c, -, he⟩ := List.mem_flatMap.mp he
  rw [informs_callEvents _ _ e he, Bool.not_false]

namespace Runner

theorem withoutInfo_formatFiles (r : Runner σ) (observe : Observer τ) (paths : List String) (t : τ)
    (files : FileSystem) :
    withoutInfo (r.formatFiles observe paths t files).events =
      (formatEach r.format observe paths ⟨files, r.state, t⟩).events := by
  rw [events_formatFiles]
  exact withoutInfo_formatEach r.format observe paths ⟨files, r.state, t⟩

/-- The only record of a run that only informs is the one with which it begins. -/
theorem events_eq_foundRecord_cons (r : Runner σ) (observe : Observer τ) (paths : List String)
    (t : τ) (files : FileSystem) :
    (r.formatFiles observe paths t files).events = .record (r.foundRecord paths) ::
      withoutInfo (r.formatFiles observe paths t files).events := by
  rw [withoutInfo_formatFiles, events_formatFiles]

end Runner

/-! ## 3. Two pieces -/

/-- The loop over two lists is the loop over the first, and then over the second in the world at its
end. -/
theorem formatEach_append (format : Formatter σ) (observe : Observer τ) (xs ys : List String)
    (w : World σ τ) :
    let first := formatEach format observe xs w
    let second := formatEach format observe ys first.world
    formatEach format observe (xs ++ ys) w =
      ⟨second.world, first.events ++ second.events, first.results ++ second.results⟩ := by
  induction xs generalizing w with
  | nil => rfl
  | cons x xs ih =>
    simp only [List.cons_append, formatEach, ih, List.append_assoc]

namespace Runner

variable (r : Runner σ) (observe : Observer τ) (xs ys : List String) (t : τ) (files : FileSystem)

/-- The same for runs: what the second run begins with is what the first one left. -/
theorem formatFiles_append :
    let first := r.formatFiles observe xs t files
    let second := first.runner.formatFiles observe ys first.observer first.files
    let whole := r.formatFiles observe (xs ++ ys) t files
    whole.runner = second.runner ∧ whole.observer = second.observer ∧ whole.files = second.files ∧
      withoutInfo whole.events = withoutInfo first.events ++ withoutInfo second.events ∧
      whole.summary = first.summary + second.summary := by
  intro first second whole
  have hloop := formatEach_append r.format observe xs ys ⟨files, r.state, t⟩
  have hworld := congrArg Course.world hloop
  refine ⟨?_, congrArg World.observer hworld, congrArg World.files hworld, ?_, ?_⟩
  · exact congrArg (fun w : World σ τ => { r with state := w.formatter }) hworld
  · simp only [whole, first, second, withoutInfo_formatFiles]
    exact congrArg Course.events hloop
  · simp only [whole, first, second, summary_formatFiles, Summary.add_eq, hloop,
      List.length_append, List.countP_append, List.filterMap_append]
    rfl

end Runner

/-! ## 4. Any number of pieces -/

/-- Formatting the pieces one after the other ends where formatting all at once does. -/
theorem Session.formatFiles_flatten (s : Session σ τ) (pieces : List (List String)) :
    let whole := s.formatFiles pieces.flatten
    let parts := s.performAll (pieces.map .formatFiles)
    whole.session = parts.1 ∧
      withoutInfo whole.events = parts.2.flatMap (withoutInfo ·.events) ∧
      ∃ summaries : List Summary, parts.2.map (·.answer) = summaries.map .done ∧
        whole.answer = .done summaries.sum := by
  induction pieces generalizing s with
  | nil => exact ⟨rfl, rfl, [], rfl, rfl⟩
  | cons piece pieces ih =>
    obtain ⟨hrunner, hobserver, hfiles, hevents, hsummary⟩ :=
      s.runner.formatFiles_append s.observe piece pieces.flatten s.observer s.files
    obtain ⟨hlast, hrest, summaries, hanswers, hsum⟩ := ih (s.formatFiles piece).session
    refine ⟨?_, ?_, (s.runner.formatFiles s.observe piece s.observer s.files).summary :: summaries,
      congrArg (_ :: ·) hanswers, ?_⟩
    · refine Eq.trans ?_ hlast
      simp only [formatFiles, List.flatten_cons, hrunner, hobserver, hfiles]
    · exact hevents.trans (congrArg (_ ++ ·) hrest)
    · rw [List.sum_cons, ← Answer.done.inj hsum]
      exact congrArg Answer.done hsummary

/-- **Formatting in pieces.**  Formatting a list and then another one on the same runner leaves the
formatter, the observer and the files as formatting both at once does, with the same calls, warnings
and reports in the same order; only the record with which each run begins is another one.  The
summaries add up, and the whole is clean exactly if both parts are.  The same holds however a list
is cut into pieces. -/
theorem formatting_in_pieces (r : Runner σ) (observe : Observer τ) (t : τ) (files : FileSystem) :
    (∀ paths, (r.formatFiles observe paths t files).events = .record (r.foundRecord paths) ::
      withoutInfo (r.formatFiles observe paths t files).events) ∧
    (∀ xs ys,
      let first := r.formatFiles observe xs t files
      let second := first.runner.formatFiles observe ys first.observer first.files
      let whole := r.formatFiles observe (xs ++ ys) t files
      whole.runner = second.runner ∧ whole.observer = second.observer ∧
        whole.files = second.files ∧
        withoutInfo whole.events = withoutInfo first.events ++ withoutInfo second.events ∧
        whole.summary = ⟨first.summary.discovered + second.summary.discovered,
          first.summary.formatted + second.summary.formatted,
          first.summary.failed ++ second.summary.failed⟩ ∧
        (whole.summary.isClean = true ↔
          first.summary.isClean = true ∧ second.summary.isClean = true)) ∧
    ∀ pieces : List (List String),
      let s : Session σ τ := ⟨r, observe, t, files⟩
      let whole := s.formatFiles pieces.flatten
      let parts := s.performAll (pieces.map .formatFiles)
      whole.session = parts.1 ∧
        withoutInfo whole.events = parts.2.flatMap (withoutInfo ·.events) ∧
        ∃ summaries : List Summary, parts.2.map (·.answer) = summaries.map .done ∧
          whole.answer = .done summaries.sum ∧
          (summaries.sum.isClean = true ↔ ∀ summary ∈ summaries, summary.isClean = true) := by
  refine ⟨fun paths => r.events_eq_foundRecord_cons observe paths t files, fun xs ys => ?_,
    fun pieces => ?_⟩
  · obtain ⟨hrunner, hobserver, hfiles, hevents, hsummary⟩ :=
      r.formatFiles_append observe xs ys t files
    refine ⟨hrunner, hobserver, hfiles, hevents, hsummary, ?_⟩
    rw [hsummary]
    exact Summary.isClean_add _ _
  · obtain ⟨hlast, hevents, summaries, hanswers, hsum⟩ :=
      Session.formatFiles_flatten ⟨r, observe, t, files⟩ pieces
    exact ⟨hlast, hevents, summaries, hanswers, hsum, Summary.isClean_sum summaries⟩

end TidyTree
