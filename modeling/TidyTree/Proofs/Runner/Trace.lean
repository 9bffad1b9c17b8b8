/-
TidyTree.Proofs.Runner.Trace — what happens while a list of files is
formatted.

The formatter is any machine: what it answers may depend on all that
happened before.  `Calls` threads the world through the calls, one
constructor per call, and does not know the loop; the loop is shown to
take exactly these calls (`formatEach_calls`).  The events and the
summary of a run are then functions of the paths and the replies, so
nothing can be lost, doubled or moved between the log, the observer and
the summary.
-/
import Mathlib.Data.List.Basic
import TidyTree.Runner

namespace TidyTree

variable {σ τ : Type}

/-! ## 1. Calls -/

/-- The world after a call was answered and the observer was told. -/
def World.after (observe : Observer τ) (w : World σ τ) (path : String) (reply : Reply σ) :
    World σ τ where
  files := (observe ⟨path, reply.outcome⟩ w.observer reply.files).2
  formatter := reply.state
  observer := (observe ⟨path, reply.outcome⟩ w.observer reply.files).1

/-- Called on the paths one after the other, each time in the world that the call before left, the
formatter gives the replies and leaves the world at the end. -/
inductive Calls (format : Formatter σ) (observe : Observer τ) :
    World σ τ → List String → List (Reply σ) → World σ τ → Prop
  | done (w : World σ τ) : Calls format observe w [] [] w
  | call {w w' : World σ τ} {path : String} {paths : List String} {reply : Reply σ}
      {replies : List (Reply σ)} :
      reply = format path w.formatter w.files →
      Calls format observe (w.after observe path reply) paths replies w' →
      Calls format observe w (path :: paths) (reply :: replies) w'

namespace Calls

variable {format : Formatter σ} {observe : Observer τ} {w w' : World σ τ} {paths : List String}
  {replies : List (Reply σ)}

theorem length_eq (h : Calls format observe w paths replies w') :
    replies.length = paths.length := by
  induction h with
  | done w => rfl
  | call _ _ ih => rw [List.length_cons, List.length_cons, ih]

/-- The calls leave nothing open: replies and the world at the end are determined. -/
theorem unique {replies' : List (Reply σ)} {w'' : World σ τ}
    (h : Calls format observe w paths replies w') (h' : Calls format observe w paths replies' w'') :
    replies = replies' ∧ w' = w'' := by
  induction h generalizing replies' with
  | done w => cases h'; exact ⟨rfl, rfl⟩
  | call hreply _ ih =>
    cases h' with
    | call hreply' hrest =>
      subst hreply hreply'
      obtain ⟨rfl, rfl⟩ := ih hrest
      exact ⟨rfl, rfl⟩

/-- The calls on two lists are those on the first, and then those on the second in the world that
the first leave. -/
theorem of_append {xs ys : List String} (h : Calls format observe w (xs ++ ys) replies w') :
    ∃ front back v, replies = front ++ back ∧ Calls format observe w xs front v ∧
      Calls format observe v ys back w' := by
  induction xs generalizing w replies with
  | nil => exact ⟨[], replies, w, rfl, .done w, h⟩
  | cons x xs ih =>
    cases h with
    | @call _ _ _ _ reply _ hreply hrest =>
      obtain ⟨front, back, v, rfl, hfront, hback⟩ := ih hrest
      exact ⟨reply :: front, back, v, rfl, .call hreply hfront, hback⟩

end Calls

/-! ## 2. Events -/

/-- The events of one call: the call, a record if it failed, and the report to the observer. -/
def callEvents (path : String) (reply : Reply σ) : List Event :=
  match reply.outcome with
  | .ok () => [.call path reply.signs, .report ⟨path, .ok ()⟩]
  | .error e =>
    [.call path reply.signs, .record ⟨.warn, .runner, e.text⟩, .report ⟨path, .error e⟩]

theorem callEvents_eq (path : String) (reply : Reply σ) :
    callEvents path reply = .call path reply.signs ::
      (failureEvents reply.outcome ++ [.report ⟨path, reply.outcome⟩]) := by
  unfold callEvents
  split
  · next h => rw [h]; rfl
  · next e h => rw [h]; rfl

/-- What is picked from the events of calls, if one thing is picked from each call. -/
theorem filterMap_callEvents {α : Type} {f : Event → Option α} {g : String → Reply σ → α}
    (hf : ∀ path reply, (callEvents path reply).filterMap f = [g path reply])
    (paths : List String) (replies : List (Reply σ)) :
    ((paths.zip replies).flatMap (fun c => callEvents c.1 c.2)).filterMap f =
      (paths.zip replies).map fun c => g c.1 c.2 := by
  rw [List.filterMap_flatMap]
  simp only [hf]
  exact List.map_eq_flatMap.symm

/-- Nothing is picked from records, if nothing is picked from one. -/
theorem filterMap_records {α : Type} {f : Event → Option α} (hf : ∀ r, f (.record r) = none)
    (records : List Record) : (records.map Event.record).filterMap f = [] := by
  rw [List.filterMap_map, List.filterMap_eq_nil_iff]
  exact fun r _ => hf r

/-- The loop takes exactly the calls, and gives their events and outcomes in order. -/
theorem formatEach_calls (format : Formatter σ) (observe : Observer τ) (paths : List String)
    (w : World σ τ) :
    ∃ replies, Calls format observe w paths replies (formatEach format observe paths w).world ∧
      (formatEach format observe paths w).events =
        (paths.zip replies).flatMap (fun c => callEvents c.1 c.2) ∧
      (formatEach format observe paths w).results = replies.map (·.outcome) := by
  induction paths generalizing w with
  | nil => exact ⟨[], .done w, rfl, rfl⟩
  | cons path paths ih =>
    obtain ⟨replies, hcalls, hevents, hresults⟩ :=
      ih (w.after observe path (format path w.formatter w.files))
    refine ⟨format path w.formatter w.files :: replies, .call rfl hcalls, ?_, ?_⟩
    · rw [List.zip_cons_cons, List.flatMap_cons, ← hevents, callEvents_eq]
      simp only [formatEach, List.cons_append, List.append_assoc, List.nil_append]
      rfl
    · rw [List.map_cons, ← hresults]
      rfl

/-! ## 3. Summaries -/

/-- The error of an outcome. -/
def failure? : Except FormatError Unit → Option FormatError
  | .ok () => none
  | .error e => some e

@[simp] theorem isOk_ok (u : Unit) : (Except.ok u : Except FormatError Unit).isOk = true := rfl

@[simp] theorem isOk_error (e : FormatError) :
    (Except.error e : Except FormatError Unit).isOk = false := rfl

/-- Recording outcomes counts the successes and appends the errors. -/
theorem foldl_record (results : List (Except FormatError Unit)) (s : Summary) :
    results.foldl Summary.record s =
      ⟨s.discovered, s.formatted + results.countP (·.isOk),
        s.failed ++ results.filterMap failure?⟩ := by
  induction results generalizing s with
  | nil => simp
  | cons result results ih =>
    rw [List.foldl_cons, ih]
    cases result with
    | ok u =>
      simp only [Summary.record, failure?, List.countP_cons, List.filterMap_cons, isOk_ok, if_pos]
      rw [Nat.add_assoc, Nat.add_comm 1]
    | error e => simp [Summary.record, failure?]

/-- Every outcome is a success or has an error. -/
theorem countP_add_length_failures (results : List (Except FormatError Unit)) :
    results.countP (·.isOk) + (results.filterMap failure?).length = results.length := by
  induction results with
  | nil => rfl
  | cons result results ih =>
    cases result with
    | ok u =>
      simp only [failure?, List.countP_cons, List.filterMap_cons, isOk_ok, if_pos,
        List.length_cons]
      omega
    | error e =>
      simp [failure?]
      omega

/-! ## 4. Runs -/

theorem events_formatFiles (r : Runner σ) (observe : Observer τ) (paths : List String) (t : τ)
    (files : FileSystem) :
    (r.formatFiles observe paths t files).events = .record (r.foundRecord paths) ::
      (formatEach r.format observe paths ⟨files, r.state, t⟩).events := rfl

/-- The summary of a run counts and collects the outcomes of its calls. -/
theorem summary_formatFiles (r : Runner σ) (observe : Observer τ) (paths : List String) (t : τ)
    (files : FileSystem) :
    (r.formatFiles observe paths t files).summary =
      ⟨paths.length,
        (formatEach r.format observe paths ⟨files, r.state, t⟩).results.countP (·.isOk),
        (formatEach r.format observe paths ⟨files, r.state, t⟩).results.filterMap failure?⟩ := by
  have h := foldl_record (formatEach r.format observe paths ⟨files, r.state, t⟩).results
    (.start paths.length)
  rw [Summary.start, Nat.zero_add, List.nil_append] at h
  exact h

theorem discovered_formatFiles (r : Runner σ) (observe : Observer τ) (paths : List String) (t : τ)
    (files : FileSystem) :
    (r.formatFiles observe paths t files).summary.discovered = paths.length := by
  rw [summary_formatFiles]

/-- Every file of a run is counted as formatted or has its error in the summary. -/
theorem balance_formatFiles (r : Runner σ) (observe : Observer τ) (paths : List String) (t : τ)
    (files : FileSystem) :
    (r.formatFiles observe paths t files).summary.formatted +
      (r.formatFiles observe paths t files).summary.failed.length = paths.length := by
  obtain ⟨replies, hcalls, -, hresults⟩ :=
    formatEach_calls r.format observe paths ⟨files, r.state, t⟩
  have htotal := countP_add_length_failures (replies.map (·.outcome))
  rw [List.length_map, hcalls.length_eq, ← hresults] at htotal
  rw [summary_formatFiles]
  exact htotal

theorem isClean_iff (s : Summary) : s.isClean = true ↔ s.failed = [] := by
  rw [Summary.isClean, List.isEmpty_iff]

/-- **The trace of formatting a list.**  One record at the start, then for each path in order the
call, a record exactly if it failed, and the report; the summary counts the same outcomes.  At no
point of the list are more files counted as formatted than there are paths. -/
theorem formatFiles_trace (r : Runner σ) (observe : Observer τ) (paths : List String) (t : τ)
    (files : FileSystem) :
    ∃ replies : List (Reply σ),
      Calls r.format observe ⟨files, r.state, t⟩ paths replies
        ⟨(r.formatFiles observe paths t files).files,
          (r.formatFiles observe paths t files).runner.state,
          (r.formatFiles observe paths t files).observer⟩ ∧
      (r.formatFiles observe paths t files).events =
        .record ⟨.info, .runner,
          "Found " ++ toString paths.length ++ " source files under " ++ r.config.rootDir⟩ ::
        (paths.zip replies).flatMap (fun c => callEvents c.1 c.2) ∧
      (r.formatFiles observe paths t files).summary.discovered = paths.length ∧
      (r.formatFiles observe paths t files).summary.formatted =
        replies.countP (·.outcome.isOk) ∧
      (r.formatFiles observe paths t files).summary.failed =
        replies.filterMap (failure? ·.outcome) ∧
      (r.formatFiles observe paths t files).summary.formatted +
        (r.formatFiles observe paths t files).summary.failed.length = paths.length ∧
      (∀ front, front <+: replies →
        (front.foldl (fun (s : Summary) reply => s.record reply.outcome)
          (.start paths.length)).formatted ≤ paths.length) ∧
      ((r.formatFiles observe paths t files).summary.isClean = true ↔
        (r.formatFiles observe paths t files).summary.formatted =
          (r.formatFiles observe paths t files).summary.discovered) := by
  obtain ⟨replies, hcalls, hevents, hresults⟩ :=
    formatEach_calls r.format observe paths ⟨files, r.state, t⟩
  have hlength : (replies.map (·.outcome)).length = paths.length := by
    rw [List.length_map, hcalls.length_eq]
  have htotal := countP_add_length_failures (replies.map (·.outcome))
  rw [hlength] at htotal
  have hfront : ∀ front, front <+: replies →
      (front.foldl (fun (s : Summary) reply => s.record reply.outcome)
        (.start paths.length)).formatted ≤ paths.length := by
    intro front hprefix
    have hfold := foldl_record (front.map (·.outcome)) (.start paths.length)
    rw [List.foldl_map] at hfold
    rw [hfold, Summary.start, Nat.zero_add]
    calc (front.map (·.outcome)).countP (·.isOk)
        ≤ (front.map (·.outcome)).length := List.countP_le_length
      _ = front.length := List.length_map _
      _ ≤ replies.length := hprefix.length_le
      _ = paths.length := hcalls.length_eq
  have hsummary := summary_formatFiles r observe paths t files
  rw [hresults] at hsummary
  refine ⟨replies, hcalls, ?_, ?_, ?_, ?_, ?_, hfront, ?_⟩
  · rw [events_formatFiles, hevents]
    rfl
  · rw [hsummary]
  · rw [hsummary, List.countP_map]
    rfl
  · rw [hsummary, List.filterMap_map]
    rfl
  · rw [hsummary]
    exact htotal
  · rw [isClean_iff, hsummary, ← List.length_eq_zero_iff]
    simp only
    omega

end TidyTree
