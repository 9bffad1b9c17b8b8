/-
TidyTree.Proofs.CommandLine.Progress — the progress bar follows the run.

The bar is told about each call as it is answered, so behind any part of
the list it stands at the number of the calls in that part and shows the
last path of it (`ProgressBar.behind`).  One step says that for one call
(`tick_behind`), whatever became of it, and an induction along the calls
says it for all (`bar_behind`).  At the end nothing is left for
finishing the bar but its message.
-/
import TidyTree.Proofs.CommandLine.Grammar
import TidyTree.Proofs.Runner.EntryPoints

namespace TidyTree

/-! ## 1. The bar along the calls -/

/-- The bar over `total` files, behind the calls on the paths `done`. -/
def ProgressBar.behind (total : Nat) (done : List String) : ProgressBar where
  length := total.toUInt64
  position := done.length.toUInt64
  message := done.getLastD ""
  finished := false

namespace CommandLine

/-- A call moves the bar by one and shows its path, whatever became of it. -/
theorem tick_behind (total : Nat) (done : List String) (outcome : FileOutcome)
    (files : FileSystem) :
    tick outcome (some (.behind total done)) files =
      (some (.behind total (done ++ [outcome.path])), files) := by
  have hnext : done.length.toUInt64 + 1 = (done ++ [outcome.path]).length.toUInt64 := by
    rw [List.length_append]
    exact (UInt64.ofNat_add _ _).symm
  have hlast : (done ++ [outcome.path]).getLastD "" = outcome.path := by
    simp
  simp only [tick, Observer.keeping, Option.map_some, ProgressBar.behind, ProgressBar.setMessage,
    ProgressBar.advance, hnext, hlast]

section Bars

variable {σ : Type} {format : Formatter σ} {w w' : World σ (Option ProgressBar)}
  {paths : List String} {replies : List (Reply σ)}

theorem bar_behind (h : Calls format tick w paths replies w') {total : Nat} {done : List String}
    (hbar : w.observer = some (.behind total done)) :
    w'.observer = some (.behind total (done ++ paths)) := by
  induction h generalizing done with
  | done w => rw [hbar, List.append_nil]
  | @call w w' path paths reply replies _ _ ih =>
    have hafter : (w.after tick path reply).observer = some (.behind total (done ++ [path])) := by
      rw [World.after, hbar, tick_behind]
    rw [ih hafter, List.append_assoc, List.singleton_append]

/-- Calls make no bar and take none away. -/
theorem isSome_bar (h : Calls format tick w paths replies w') :
    w'.observer.isSome = w.observer.isSome := by
  induction h with
  | done w => rfl
  | call _ _ ih => exact ih.trans Option.isSome_map

end Bars

/-- In a run over any list, the bar stands behind the calls that are answered. -/
theorem bar_formatFiles {σ : Type} (r : Runner σ) {paths : List String}
    {start : Option ProgressBar} (hstart : start = some (.behind paths.length []))
    (files : FileSystem) :
    let run := r.formatFiles tick paths start files
    run.observer = some (.behind paths.length paths) ∧
      ∀ done left, paths = done ++ left → ∃ front back w,
        Calls r.format tick ⟨files, r.state, start⟩ done front w ∧
        Calls r.format tick w left back ⟨run.files, run.runner.state, run.observer⟩ ∧
        w.observer = some (.behind paths.length done) := by
  intro run
  obtain ⟨replies, hcalls, -⟩ := formatEach_calls r.format tick paths ⟨files, r.state, start⟩
  refine ⟨bar_behind hcalls hstart, fun done left hpaths => ?_⟩
  have hsplit : Calls r.format tick ⟨files, r.state, start⟩ (done ++ left) replies
      ⟨run.files, run.runner.state, run.observer⟩ := hpaths ▸ hcalls
  obtain ⟨front, back, w, -, hfront, hback⟩ := hsplit.of_append
  exact ⟨front, back, w, hfront, hback, bar_behind hfront hstart⟩

/-- A run over any list has a bar at its end if it had one at its start. -/
theorem isSome_bar_formatFiles {σ : Type} (r : Runner σ) (paths : List String)
    (start : Option ProgressBar) (files : FileSystem) :
    (r.formatFiles tick paths start files).observer.isSome = start.isSome := by
  obtain ⟨replies, hcalls, -⟩ := formatEach_calls r.format tick paths ⟨files, r.state, start⟩
  exact isSome_bar hcalls

theorem isSome_barFor (o : Options) (found : List String) :
    (barFor o found).isSome = true ↔ o.quiet = false ∧ found ≠ [] := by
  rw [barFor]
  split
  · next hshown => exact iff_of_true rfl hshown
  · next hhidden => exact iff_of_false Bool.false_ne_true hhidden

/-! ## 2. The number of a bar -/

/-- As long as there are no more files than a word can count, the position of a bar is the number
of the calls behind which it stands, and its length that of all files. -/
theorem counts_behind {total : Nat} (hfits : total < 2 ^ 64) {done left : List String}
    (htotal : total = (done ++ left).length) :
    (ProgressBar.behind total done).position.toNat = done.length ∧
      (ProgressBar.behind total done).length.toNat = total := by
  have hdone : done.length < 2 ^ 64 := by
    rw [List.length_append] at htotal
    omega
  exact ⟨UInt64.toNat_ofNat_of_lt hdone, UInt64.toNat_ofNat_of_lt hfits⟩

theorem position_le_length {total : Nat} (hfits : total < 2 ^ 64) {done left : List String}
    (htotal : total = (done ++ left).length) :
    (ProgressBar.behind total done).position ≤ (ProgressBar.behind total done).length := by
  obtain ⟨hposition, hlength⟩ := counts_behind hfits htotal
  rw [UInt64.le_iff_toNat_le, hposition, hlength, htotal, List.length_append]
  exact Nat.le_add_right _ _

/-- More calls do not move a bar back. -/
theorem position_mono {total : Nat} (hfits : total < 2 ^ 64) {done next left : List String}
    (htotal : total = (done ++ (next ++ left)).length) :
    (ProgressBar.behind total done).position ≤
      (ProgressBar.behind total (done ++ next)).position := by
  obtain ⟨hposition, -⟩ := counts_behind hfits htotal
  rw [← List.append_assoc] at htotal
  obtain ⟨hnext, -⟩ := counts_behind hfits htotal
  rw [UInt64.le_iff_toNat_le, hposition, hnext, List.length_append]
  exact Nat.le_add_right _ _

/-! ## 3. The bar of the program -/

/-- A run is quiet exactly if `--quiet` is among its arguments. -/
theorem Gives.quiet_mem_iff {arguments : List String} {given : List Given}
    (h : Gives arguments given) : .quiet ∈ given ↔ "--quiet" ∈ arguments := by
  induction h with
  | nothing => simp
  | dashes => simp
  | quiet _ _ => simp
  | @level v t as given hspelled _ ih =>
    have hv : "--quiet" ≠ v := by
      rintro rfl
      have hnone : Threshold.ofName? "--quiet" = none := by decide +kernel
      have hname := Threshold.ofName?_eq_some_iff.mpr hspelled
      rw [hnone] at hname
      cases hname
    simp [ih, hv]
  | @joined v t as given hspelled _ ih =>
    have hv : "--quiet" ≠ "--log-level=" ++ v := by
      intro heq
      have htake := congrArg (fun s : String => s.toList.take 3) heq
      simp at htake
    simp [ih, hv]

theorem Accepted.quiet_iff {arguments : List String} {o : Options} (h : Accepted arguments o) :
    o.quiet = true ↔ "--quiet" ∈ arguments := by
  obtain ⟨given, hgives, hfit⟩ := h
  rw [hfit.quiet_iff, hgives.quiet_mem_iff]

/-- **The progress bar follows the run.**  A run of the program has a bar exactly if it is not to be
quiet and has found files.  Wherever the list of these is cut, behind the calls on its front part,
whatever became of them, the bar stands at their number, with the number of all files as its length
and the last path as its message; so it never goes back and never passes its end, as long as a word
can count the files.  When all calls are answered it stands at its end, which is the number of files
formatted and failed, and finishing it changes no more than message and state. -/
theorem bar_follows_run (launch : Launcher) (env : Environment) (files : FileSystem)
    {arguments : List String} {o : Options} (h : Accepted arguments o) :
    let runner := Runner.ofConfig launch Config.default
    let found := (runner.discover files).files
    let run := runner.formatFiles tick found (barFor o found) files
    let t := program launch env arguments files
    let bar := ProgressBar.behind found.length
    (t.events = (runner.discover files).records.map Event.record ++ run.events ∧
      t.files = run.files ∧ t.bar = run.observer.map (·.finishWith "done")) ∧
    (t.bar.isSome = true ↔ "--quiet" ∉ arguments ∧ found ≠ []) ∧
    (t.bar.isSome = true →
      (∀ done left, found = done ++ left → ∃ front back w,
        Calls runner.format tick ⟨files, runner.state, barFor o found⟩ done front w ∧
        Calls runner.format tick w left back ⟨run.files, run.runner.state, run.observer⟩ ∧
        w.observer = some (bar done)) ∧
      run.observer = some (bar found) ∧ (bar found).position = (bar found).length ∧
      (bar found).position = (run.summary.formatted + run.summary.failed.length).toUInt64 ∧
      t.bar = some { bar found with message := "done", finished := true }) ∧
    (found.length < 2 ^ 64 → ∀ done left, found = done ++ left →
      (bar done).length.toNat = found.length ∧ (bar done).position.toNat = done.length ∧
      (bar done).position ≤ (bar done).length ∧
      ∀ next, next <+: left → (bar done).position ≤ (bar (done ++ next)).position) := by
  intro runner found run t bar
  have ht : t = format launch o (forcesColour env) files := by
    simp only [t, program, request_eq_run_iff.mpr h]
  have hbar : t.bar = run.observer.map (·.finishWith "done") := by
    rw [ht]
    rfl
  have hquiet : "--quiet" ∉ arguments ↔ o.quiet = false := by
    rw [← h.quiet_iff, Bool.not_eq_true]
  have hshown : t.bar.isSome = true ↔ o.quiet = false ∧ found ≠ [] := by
    rw [hbar, Option.isSome_map, isSome_bar_formatFiles, isSome_barFor]
  refine ⟨⟨?_, ?_, hbar⟩, by rw [hshown, hquiet], fun hsome => ?_, fun hfits done left hfound => ?_⟩
  · rw [ht]
    rfl
  · rw [ht]
    rfl
  · have hstart : barFor o found = some (bar []) := if_pos (hshown.mp hsome)
    obtain ⟨hlast, hparts⟩ := bar_formatFiles runner hstart files
    refine ⟨hparts, hlast, rfl, ?_, ?_⟩
    · exact congrArg Nat.toUInt64 (balance_formatFiles runner tick found _ files).symm
    · rw [hbar, hlast]
      rfl
  · have htotal := congrArg List.length hfound
    obtain ⟨hposition, hlength⟩ := counts_behind hfits htotal
    refine ⟨hlength, hposition, position_le_length hfits htotal, ?_⟩
    rintro next ⟨rest, rfl⟩
    exact position_mono hfits htotal

/-- Two files, which the system lists in the other order. -/
def sampleTwo : FileSystem :=
  FileSystem.sampleOf (.leaf "b.h" (.file 0) (.leaf "a.h" (.file 1) .nil))

/-- Programs that fail on the first of them. -/
def sampleFailing : Launcher := fun i files =>
  .ended (.exit (if "src/a.h" ∈ i.arguments then 1 else 0)) [] files

/-- In the example the first call fails; the bar is half way behind it, and at its end when it is
finished. -/
theorem sample_bar :
    let runner := Runner.ofConfig sampleFailing Config.default
    let run := runner.formatFiles tick ["src/a.h", "src/b.h"] (some (.new 2)) sampleTwo
    Accepted ["--log-level=off"] ⟨false, .off⟩ ∧
    (program sampleFailing [] ["--log-level=off"] sampleTwo).bar = some ⟨2, 2, "done", true⟩ ∧
    run.summary.formatted = 1 ∧
    ∃ front back w, Calls runner.format tick ⟨sampleTwo, (), some (.new 2)⟩ ["src/a.h"] front w ∧
      Calls runner.format tick w ["src/b.h"] back ⟨run.files, run.runner.state, run.observer⟩ ∧
      w.observer = some ⟨2, 1, "src/a.h", false⟩ ∧
      (ProgressBar.behind 2 ["src/a.h"]).position.toNat = 1 := by
  intro runner run
  have haccepted : Accepted ["--log-level=off"] ⟨false, .off⟩ :=
    request_eq_run_iff.mp (by decide +kernel)
  have hfound : (runner.discover sampleTwo).files = ["src/a.h", "src/b.h"] := by cbv
  obtain ⟨-, hshown, hfollows, hcounts⟩ := bar_follows_run sampleFailing [] sampleTwo haccepted
  rw [hfound] at hshown hfollows hcounts
  obtain ⟨hparts, -, -, -, hbar⟩ := hfollows (hshown.mpr (by decide))
  obtain ⟨front, back, w, hfront, hback, hw⟩ := hparts ["src/a.h"] ["src/b.h"] rfl
  obtain ⟨-, hposition, -⟩ := hcounts (by decide) ["src/a.h"] ["src/b.h"] rfl
  exact ⟨haccepted, hbar, by decide +kernel, front, back, w, hfront, hback, hw, hposition⟩

end CommandLine

end TidyTree
