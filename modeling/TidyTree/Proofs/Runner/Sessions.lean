/-
TidyTree.Proofs.Runner.Sessions — what a runner carries from one step to
the next.

Between two steps anything may happen to the files, and every step may
have an observer of its own; a `Turn` is one step with the files at its
start.  `Turn.Fits` says what a turn comes to in terms of the calls made
in it, and `Turns` threads the state of the formatter through a list of
turns, and nothing else.  The steps of a session are such turns
(`Session.performAll_eq`).  A formatter that keeps its calls in its
state has kept the lists of all turns, one after the other, when it is
given back (`Turns.kept`).
-/
import Mathlib.Algebra.GroupWithZero.Nat
import TidyTree.Proofs.Runner.EntryPoints

namespace TidyTree

variable {σ τ : Type}

/-! ## 1. Turns -/

/-- One step on a runner: what is to be done, who is told, and the files at its start. -/
structure Turn (τ : Type) where
  action : Action
  observe : Observer τ
  observer : τ
  files : FileSystem

/-- What a turn comes to on a runner. -/
def Runner.turn (r : Runner σ) (t : Turn τ) : Stage σ τ :=
  (⟨r, t.observe, t.observer, t.files⟩ : Session σ τ).perform t.action

/-- Takes turns on a runner one after the other; gives the runner at the end and the stages. -/
def Runner.turns (r : Runner σ) : List (Turn τ) → Runner σ × List (Stage σ τ)
  | [] => (r, [])
  | t :: ts =>
    let stage := r.turn t
    let (last, stages) := stage.session.runner.turns ts
    (last, stage :: stages)

/-- The turns that the steps of a session are: files and observer are those the step before
left. -/
def Session.turns (s : Session σ τ) : List Action → List (Turn τ)
  | [] => []
  | a :: as => ⟨a, s.observe, s.observer, s.files⟩ :: (s.perform a).session.turns as

theorem Session.performAll_eq (s : Session σ τ) (actions : List Action) :
    (s.performAll actions).1.runner = (s.runner.turns (s.turns actions)).1 ∧
      (s.performAll actions).2 = (s.runner.turns (s.turns actions)).2 := by
  induction actions generalizing s with
  | nil => exact ⟨rfl, rfl⟩
  | cons a as ih =>
    obtain ⟨hrunner, hstages⟩ := ih (s.perform a).session
    exact ⟨hrunner, congrArg (s.perform a :: ·) hstages⟩

/-- The summary of replies: all, the successes, and the errors in order. -/
def Summary.ofReplies (replies : List (Reply σ)) : Summary :=
  ⟨replies.length, replies.countP (·.outcome.isOk), replies.filterMap (failure? ·.outcome)⟩

/-- The summary of an answer. -/
def Answer.summary? : Answer → Option Summary
  | done summary => some summary
  | found _ | nothing => none

namespace Turn

/-- The files that a turn formats, in order. -/
def list (c : Config) (t : Turn τ) : List String :=
  match t.action with
  | .run | .runWith => (TidyTree.discover t.files c.rootDir c.suffixes).files
  | .formatFiles paths => paths
  | .discover | .change _ => []

/-- Who is told about the files of a turn. -/
def listener (t : Turn τ) : Observer τ :=
  match t.action with
  | .runWith | .formatFiles _ => t.observe
  | .discover | .run | .change _ => .silent

/-- What a turn answers if the formatter gives these replies in it. -/
def answer (c : Config) (t : Turn τ) (replies : List (Reply σ)) : Answer :=
  match t.action with
  | .discover => .found (TidyTree.discover t.files c.rootDir c.suffixes).files
  | .run | .runWith | .formatFiles _ => .done (.ofReplies replies)
  | .change _ => .nothing

/-- The stage is what a turn on the runner comes to in which the formatter starts in `s`, gives the
replies and ends in `s'`. -/
structure Fits (r : Runner σ) (t : Turn τ) (s : σ) (replies : List (Reply σ)) (stage : Stage σ τ)
    (s' : σ) : Prop where
  /-- Nothing of the runner has changed but the state of its formatter. -/
  runner : stage.session.runner = { r with state := s' }
  /-- The formatter was called on the files of the turn, and first in the files at its start. -/
  calls : ∃ w', Calls r.format t.listener ⟨t.files, s, t.observer⟩ (t.list r.config) replies w' ∧
    w'.formatter = s'
  /-- Besides records, the events are those of these calls. -/
  events : ∃ records : List Record, stage.events = records.map Event.record ++
    ((t.list r.config).zip replies).flatMap (fun c => callEvents c.1 c.2)
  /-- The answer depends on these replies only. -/
  answer : stage.answer = t.answer r.config replies

end Turn

/-- The stages are what turns on the runner come to, each starting with the formatter in the state
in which the one before left it: in `s` at first, in `s'` at last. -/
inductive Turns (r : Runner σ) : σ → List (Turn τ) → List (Stage σ τ) → σ → Prop
  | done (s : σ) : Turns r s [] [] s
  | turn {s s' s'' : σ} {t : Turn τ} {ts : List (Turn τ)} {replies : List (Reply σ)}
      {stage : Stage σ τ} {stages : List (Stage σ τ)} :
      t.Fits r s replies stage s' → Turns r s' ts stages s'' →
      Turns r s (t :: ts) (stage :: stages) s''

/-! ## 2. One turn -/

/-- Every reply counts as a success or has its error in the summary. -/
theorem Summary.balance_ofReplies (replies : List (Reply σ)) :
    (Summary.ofReplies replies).formatted + (Summary.ofReplies replies).failed.length =
      (Summary.ofReplies replies).discovered := by
  have htotal := countP_add_length_failures (replies.map (·.outcome))
  rw [List.countP_map, List.filterMap_map, List.length_map] at htotal
  exact htotal

/-- Formatting a list makes the calls on it, and its summary is that of their replies. -/
theorem Runner.formatFiles_calls (r : Runner σ) (observe : Observer τ) (paths : List String) (t : τ)
    (files : FileSystem) :
    let run := r.formatFiles observe paths t files
    ∃ replies w', Calls r.format observe ⟨files, r.state, t⟩ paths replies w' ∧
      w'.formatter = run.runner.state ∧
      run.events = .record (r.foundRecord paths) ::
        (paths.zip replies).flatMap (fun c => callEvents c.1 c.2) ∧
      run.summary = .ofReplies replies := by
  intro run
  obtain ⟨replies, hcalls, hevents, hresults⟩ :=
    formatEach_calls r.format observe paths ⟨files, r.state, t⟩
  refine ⟨replies, _, hcalls, rfl, ?_, ?_⟩
  · rw [← hevents]
    rfl
  · simp only [run, summary_formatFiles, hresults, ← hcalls.length_eq, List.countP_map,
      List.filterMap_map]
    rfl

/-- What was noted before the calls were announced are records too. -/
theorem exists_records_append (before : List Record) {r : Record} {events calls : List Event}
    (h : events = .record r :: calls) :
    ∃ records : List Record, before.map Event.record ++ events =
      records.map Event.record ++ calls := by
  refine ⟨before ++ [r], ?_⟩
  rw [h, List.map_append, List.append_assoc]
  rfl

namespace Turn

/-- **One turn.**  Whatever state the formatter is in, what a turn comes to fits it. -/
theorem fits_turn (r : Runner σ) (s : σ) (t : Turn τ) :
    ∃ replies s', t.Fits r s replies (({ r with state := s } : Runner σ).turn t) s' := by
  obtain ⟨action, observe, observer, files⟩ := t
  let start : Runner σ := { r with state := s }
  cases action with
  | discover =>
    exact ⟨[], s, rfl, ⟨_, .done _, rfl⟩, ⟨_, (List.append_nil _).symm⟩, rfl⟩
  | run =>
    obtain ⟨replies, w, hcalls, hstate, hevents, hsummary⟩ :=
      start.formatFiles_calls .silent (start.discover files).files () files
    obtain ⟨w', hsilent, -, hstate'⟩ :=
      hcalls.observed (v := ⟨files, s, observer⟩) Observer.keepsFiles_silent
        Observer.keepsFiles_silent rfl rfl
    exact ⟨replies, _, rfl, ⟨w', hsilent, hstate'.trans hstate⟩,
      exists_records_append _ hevents, congrArg Answer.done hsummary⟩
  | runWith =>
    obtain ⟨replies, w', hcalls, hstate, hevents, hsummary⟩ :=
      start.formatFiles_calls observe (start.discover files).files observer files
    exact ⟨replies, _, rfl, ⟨w', hcalls, hstate⟩, exists_records_append _ hevents,
      congrArg Answer.done hsummary⟩
  | formatFiles paths =>
    obtain ⟨replies, w', hcalls, hstate, hevents, hsummary⟩ :=
      start.formatFiles_calls observe paths observer files
    exact ⟨replies, _, rfl, ⟨w', hcalls, hstate⟩, ⟨[_], hevents⟩, congrArg Answer.done hsummary⟩
  | change f =>
    exact ⟨[], s, rfl, ⟨_, .done _, rfl⟩, ⟨[], rfl⟩, rfl⟩

/-- A turn answers with the summary of its replies, or with none and formats no file. -/
theorem summary_answer (c : Config) (t : Turn τ) (replies : List (Reply σ)) :
    (t.answer c replies).summary? = some (.ofReplies replies) ∨
      (t.answer c replies).summary? = none ∧ t.list c = [] := by
  unfold answer list
  cases t.action with
  | discover | change f => exact .inr ⟨rfl, rfl⟩
  | run | runWith | formatFiles paths => exact .inl rfl

namespace Fits

variable {r : Runner σ} {t : Turn τ} {s s' : σ} {replies : List (Reply σ)} {stage : Stage σ τ}

/-- The formatter is called on the files of the turn. -/
theorem called (h : t.Fits r s replies stage s') :
    stage.events.filterMap Event.called? = t.list r.config := by
  obtain ⟨w', hcalls, -⟩ := h.calls
  obtain ⟨records, hevents⟩ := h.events
  rw [hevents, List.filterMap_append, filterMap_records fun _ => rfl, List.nil_append]
  exact hcalls.called

/-- The summary of a turn, if it has one, gives the number of its files. -/
theorem discovered (h : t.Fits r s replies stage s') :
    (stage.answer.summary?.toList.map (·.discovered)).sum = (t.list r.config).length := by
  obtain ⟨w', hcalls, -⟩ := h.calls
  rw [h.answer, ← hcalls.length_eq]
  obtain hsome | ⟨hnone, hlist⟩ := t.summary_answer r.config replies
  · rw [hsome]
    exact Nat.add_zero _
  · rw [hnone, hcalls.length_eq, hlist]
    rfl

theorem balance (h : t.Fits r s replies stage s') {summary : Summary}
    (hdone : stage.answer = .done summary) :
    summary.formatted + summary.failed.length = summary.discovered := by
  have hsummary : (t.answer r.config replies).summary? = some summary := by
    rw [← h.answer, hdone]
    rfl
  obtain hsome | ⟨hnone, -⟩ := t.summary_answer r.config replies
  · rw [hsome, Option.some_inj] at hsummary
    rw [← hsummary]
    exact Summary.balance_ofReplies replies
  · rw [hnone] at hsummary
    cases hsummary

end Fits

end Turn

/-! ## 3. All turns -/

/-- The formatter keeps in its state the paths it is called on. -/
def Formatter.KeepsCalls (format : Formatter σ) (kept : σ → List String) : Prop :=
  ∀ path s files, kept (format path s files).state = kept s ++ [path]

/-- After some calls it has kept their paths. -/
theorem Calls.kept {format : Formatter σ} {observe : Observer τ} {w w' : World σ τ}
    {paths : List String} {replies : List (Reply σ)} {kept : σ → List String}
    (hkeeps : format.KeepsCalls kept) (h : Calls format observe w paths replies w') :
    kept w'.formatter = kept w.formatter ++ paths := by
  induction h with
  | done w => rw [List.append_nil]
  | @call w w' path paths reply replies hreply _ ih =>
    have hstate : kept (w.after observe path reply).formatter = kept w.formatter ++ [path] := by
      rw [hreply]
      exact hkeeps path w.formatter w.files
    rw [ih, hstate, List.append_assoc, List.singleton_append]

/-- **All turns.**  Each turn fits, and starts in the state in which the one before left the
formatter. -/
theorem Runner.turns_fit (r : Runner σ) (ts : List (Turn τ)) (s : σ) :
    ∃ s', (({ r with state := s } : Runner σ).turns ts).1 = { r with state := s' } ∧
      Turns r s ts (({ r with state := s } : Runner σ).turns ts).2 s' := by
  induction ts generalizing s with
  | nil => exact ⟨s, rfl, .done s⟩
  | cons t ts ih =>
    obtain ⟨replies, s', hfits⟩ := t.fits_turn r s
    obtain ⟨s'', hlast, hstages⟩ := ih s'
    rw [← hfits.runner] at hlast hstages
    exact ⟨s'', hlast, .turn hfits hstages⟩

namespace Turns

variable {r : Runner σ} {s s' : σ} {ts : List (Turn τ)} {stages : List (Stage σ τ)}

/-- What holds of all that fits a turn holds of every stage. -/
theorem forall_stages {p : Stage σ τ → Prop}
    (hp : ∀ (t : Turn τ) s replies stage s', t.Fits r s replies stage s' → p stage)
    (h : Turns r s ts stages s') : ∀ stage ∈ stages, p stage := by
  induction h with
  | done s => exact fun _ hmem => absurd hmem List.not_mem_nil
  | turn hfits _ ih => exact List.forall_mem_cons.mpr ⟨hp _ _ _ _ _ hfits, ih⟩

/-- The calls of all turns are their lists, one after the other. -/
theorem called (h : Turns r s ts stages s') :
    (stages.flatMap (·.events)).filterMap Event.called? = ts.flatMap (Turn.list r.config) := by
  induction h with
  | done s => rfl
  | turn hfits _ ih =>
    rw [List.flatMap_cons, List.flatMap_cons, List.filterMap_append, ih, hfits.called]

/-- A formatter that keeps its calls has kept these lists. -/
theorem kept {kept : σ → List String} (hkeeps : r.format.KeepsCalls kept)
    (h : Turns r s ts stages s') : kept s' = kept s ++ ts.flatMap (Turn.list r.config) := by
  induction h with
  | done s => exact (List.append_nil _).symm
  | turn hfits _ ih =>
    obtain ⟨w', hcalls, rfl⟩ := hfits.calls
    rw [ih, hcalls.kept hkeeps, List.flatMap_cons, List.append_assoc]

/-- The summaries count these calls. -/
theorem discovered (h : Turns r s ts stages s') :
    ((stages.filterMap (·.answer.summary?)).map (·.discovered)).sum =
      (ts.flatMap (Turn.list r.config)).length := by
  induction h with
  | done s => rfl
  | turn hfits _ ih =>
    rw [List.filterMap_eq_flatMap_toList] at ih ⊢
    rw [List.flatMap_cons, List.map_append, List.sum_append, ih, hfits.discovered,
      List.flatMap_cons, List.length_append]

end Turns

/-- **A runner carries nothing but the state of its formatter.**  Whatever is done with a runner,
with any files at the start of every turn, each turn comes to what its action asks for in these
files, and finds of the turns before only the state in which they left the formatter.  The runner
keeps its configuration, and every summary accounts for the files of its own turn.  In the end the
formatter was called on the lists of all turns, one after the other, as many times as the summaries
have counted together, and has kept just these calls if it keeps calls.  The steps of a session are
such turns. -/
theorem runner_carries_formatter_only (r : Runner σ) (ts : List (Turn τ)) :
    let last := (r.turns ts).1
    let stages := (r.turns ts).2
    let lists := ts.flatMap (Turn.list r.config)
    last = { r with state := last.state } ∧
    Turns r r.state ts stages last.state ∧
    (∀ stage ∈ stages, stage.session.runner.config = r.config ∧
      ∀ summary, stage.answer = .done summary →
        summary.formatted + summary.failed.length = summary.discovered) ∧
    (stages.flatMap (·.events)).filterMap Event.called? = lists ∧
    (∀ kept, r.format.KeepsCalls kept → kept last.state = kept r.state ++ lists) ∧
    lists.length = ((stages.filterMap (·.answer.summary?)).map (·.discovered)).sum ∧
    ∀ (observe : Observer τ) (t : τ) (files : FileSystem) (actions : List Action),
      let s : Session σ τ := ⟨r, observe, t, files⟩
      (s.performAll actions).1.runner = (r.turns (s.turns actions)).1 ∧
        (s.performAll actions).2 = (r.turns (s.turns actions)).2 := by
  intro last stages lists
  obtain ⟨s', hlast, hturns⟩ := r.turns_fit ts r.state
  have hstate : last.state = s' := congrArg Runner.state hlast
  rw [← hstate] at hlast hturns
  refine ⟨hlast, hturns, ?_, hturns.called, fun kept hkeeps => hturns.kept hkeeps,
    hturns.discovered.symm, fun observe t files actions => Session.performAll_eq _ actions⟩
  refine hturns.forall_stages fun t s replies stage s' hfits => ⟨?_, fun summary => hfits.balance⟩
  rw [hfits.runner]

/-- A formatter that keeps its calls, fails on what it was called on before, and removes
everything. -/
def sampleOnce : Formatter (List String) := fun path seen files =>
  ⟨if path ∈ seen then .error (.failed clangFormat path (.exit 1)) else .ok (), [], seen ++ [path],
    { files with root := .nil }⟩

/-- Turns between which files come and go. -/
def sampleTurns : List (Turn Unit) :=
  let before := FileSystem.sampleOf (FileSystem.sampleDeep .nil)
  let after := FileSystem.sampleOf (.leaf "a.h" (.file 0) .nil)
  [⟨.run, .silent, (), before⟩, ⟨.discover, .silent, (), before⟩,
    ⟨.formatFiles ["src/a.h", "b.h"], .silent, (), after⟩, ⟨.runWith, .silent, (), after⟩]

/-- In the example the formatter has kept the calls of the first, the third and the last turn. -/
theorem sample_carried :
    let r : Runner (List String) := ⟨.default, sampleOnce, []⟩
    r.format.KeepsCalls id ∧
    (r.turns sampleTurns).1.state =
      ["src/a-b/deep.cpp"] ++ (["src/a.h", "b.h"] ++ ["src/a.h"]) ∧
    (((r.turns sampleTurns).2.filterMap (·.answer.summary?)).map (·.discovered)).sum = 4 := by
  intro r
  have hkeeps : r.format.KeepsCalls id := fun path seen files => rfl
  have hlists : sampleTurns.flatMap (Turn.list r.config) =
      ["src/a-b/deep.cpp"] ++ (["src/a.h", "b.h"] ++ ["src/a.h"]) := by
    decide +kernel
  obtain ⟨-, -, -, -, hkept, hnumber, -⟩ := runner_carries_formatter_only r sampleTurns
  refine ⟨hkeeps, (hkept id hkeeps).trans ?_, hnumber.symm.trans ?_⟩
  · rw [hlists]
    rfl
  · rw [hlists]
    rfl

end TidyTree
