/-
TidyTree.Proofs.CommandLine.Acceptance — accepted arguments run the
program to its end, all others stop it at once.

A list of arguments that asks for no information is accepted or refused
(`request_refused`).  Accepted, it leads to a whole run and the exit code
zero, whatever the files are and whatever becomes of the programs that
are started; refused, it leads to an error on standard error and nothing
else.
-/
import TidyTree.Proofs.CommandLine.Reporting

namespace TidyTree.CommandLine

/-- Arguments that ask for no information and are not accepted are refused. -/
theorem request_refused {arguments : List String} (h : ∀ a ∈ arguments, ¬ AsksForInformation a)
    (hnot : ¬ ∃ o, Accepted arguments o) : ∃ e, request arguments = .refuse e := by
  rcases run_or_refuse (s := .start) (p := .nothing) h with ⟨o, ho⟩ | hrefused
  · exact absurd ⟨o, request_eq_run_iff.mp ho⟩ hnot
  · exact hrefused

/-- Options that are given in another order, or spelled otherwise, ask for the same. -/
theorem request_perm {arguments arguments' : List String} {given given' : List Given} {o : Options}
    (hgives : Gives arguments given) (hgives' : Gives arguments' given')
    (hperm : given.Perm given') (hfit : o.Fit given) : request arguments = request arguments' :=
  (request_eq_run_iff.mpr ⟨given, hgives, hfit⟩).trans
    (request_eq_run_iff.mpr ⟨given', hgives', hfit.perm hperm⟩).symm

/-- A program that refuses its arguments fails, says so on standard error and does nothing else. -/
theorem program_refuses (launch : Launcher) (env : Environment) {arguments : List String}
    {e : UsageError} (h : request arguments = .refuse e) (files : FileSystem) :
    let t := program launch env arguments files
    t.code = 2 ∧ t.events = [] ∧ t.files = files ∧
      ∀ clock, t.on .output clock = "" ∧
        t.on .error clock = usageText (usageInColour env) e.spans := by
  intro t
  have ht : t = onlyText 2 .error (usageText (usageInColour env) e.spans) files := by
    simp only [t, program, h]
  rw [ht]
  exact ⟨rfl, rfl, rfl, fun clock => ⟨rfl, String.append_empty⟩⟩

/-- Options of which none is given twice say how to report. -/
theorem exists_fit {given : List Given} (honce : (given.map Given.flag).Nodup) :
    ∃ o : Options, o.Fit given := by
  by_cases hlevel : ∃ t, Given.level t ∈ given
  · obtain ⟨t, ht⟩ := hlevel
    have hunique : ∀ u, Given.level u ∈ given → t = u := by
      intro u hu
      have heq := List.inj_on_of_nodup_map honce ht hu rfl
      rwa [Given.level.injEq] at heq
    exact ⟨⟨decide (.quiet ∈ given), t⟩, honce, decide_eq_true_iff, hunique,
      fun hnone => absurd ht (hnone t)⟩
  · rw [not_exists] at hlevel
    exact ⟨⟨decide (.quiet ∈ given), .upTo .info⟩, honce, decide_eq_true_iff,
      fun t ht => absurd ht (hlevel t), fun _ => rfl⟩

/-- **Accepted arguments and the exit code.**  Let no argument begin like those that ask for help or
for the version.  If the arguments give options of which none comes twice, the program formats all
files below the source directory and exits with zero, whatever these are and whatever becomes of the
programs it starts, and the same options in another order come to the same.  With any other
arguments it exits with a code that is not zero, starts nothing, prints nothing on standard output
and leaves the files as they are. -/
theorem accepted_or_refused (launch : Launcher) (env : Environment) (files : FileSystem)
    {arguments : List String} (h : ∀ a ∈ arguments, ¬ AsksForInformation a) :
    let t := program launch env arguments files
    (∀ given, Gives arguments given → (given.map Given.flag).Nodup →
      t.code = 0 ∧
      t.events.flatMap Event.invocations =
        (TidyTree.discover files sourceDirectory sourceSuffixes).files.map
          (fun path => ⟨clangFormat, [inPlaceFlag, path]⟩) ∧
      Account.of t.events (.ofEvents t.events) t.files =
        (formatTree launch sourceDirectory files).account ∧
      ∀ arguments' given', Gives arguments' given' → given.Perm given' →
        program launch env arguments' files = t) ∧
    ((¬ ∃ given, Gives arguments given ∧ (given.map Given.flag).Nodup) →
      t.code ≠ 0 ∧ t.events.flatMap Event.invocations = [] ∧
      (∀ clock, t.on .output clock = "") ∧ t.files = files) := by
  intro t
  constructor
  · intro given hgives honce
    obtain ⟨o, hfit⟩ := exists_fit honce
    have hrequest : request arguments = .run o := request_eq_run_iff.mpr ⟨given, hgives, hfit⟩
    obtain ⟨haccount, -, -⟩ := account_program launch files hrequest env
    have hinvocations := congrArg Account.invocations haccount
    obtain ⟨hcode, -, -, -⟩ := program_eq_formatTree launch files env hrequest
    refine ⟨hcode, hinvocations.trans (Runner.invocations_run launch _ files), haccount, ?_⟩
    intro arguments' given' hgives' hperm
    simp only [t, program, request_perm hgives hgives' hperm hfit]
  · intro hnot
    have hrefuses : ¬ ∃ o, Accepted arguments o := by
      rintro ⟨o, given, hgives, hfit⟩
      exact hnot ⟨given, hgives, hfit.once⟩
    obtain ⟨e, he⟩ := request_refused h hrefuses
    obtain ⟨hcode, hevents, hfiles, hwritten⟩ := program_refuses launch env he files
    refine ⟨?_, ?_, fun clock => (hwritten clock).1, hfiles⟩
    · rw [hcode]
      decide
    · rw [hevents]
      rfl

/-- In the example the same two options are given in two ways, and a third list has one of them
twice. -/
theorem sample_accepted_or_refused :
    let run := fun arguments => program sampleLaunch [("PATH", "/bin")] arguments FileSystem.sample
    (run ["--log-level", "WARN", "--quiet"]).code = 0 ∧
      run ["--quiet", "--log-level=warn", "--"] = run ["--log-level", "WARN", "--quiet"] ∧
      (run ["--quiet", "--quiet"]).code ≠ 0 ∧
      (run ["--quiet", "--quiet"]).files = FileSystem.sample := by
  intro run
  have hupper : Threshold.SpelledAs (.upTo .warn) "WARN" :=
    Threshold.ofName?_eq_some_iff.mp (by decide +kernel)
  have hlower : Threshold.SpelledAs (.upTo .warn) "warn" :=
    Threshold.ofName?_eq_some_iff.mp (by decide +kernel)
  have hfree : ∀ a ∈ ["--log-level", "WARN", "--quiet"], ¬ AsksForInformation a := by decide
  have hfree' : ∀ a ∈ ["--quiet", "--quiet"], ¬ AsksForInformation a := by decide
  obtain ⟨haccepted, -⟩ :=
    accepted_or_refused sampleLaunch [("PATH", "/bin")] FileSystem.sample hfree
  obtain ⟨-, hrefused⟩ :=
    accepted_or_refused sampleLaunch [("PATH", "/bin")] FileSystem.sample hfree'
  have hgives : Gives ["--log-level", "WARN", "--quiet"] [.level (.upTo .warn), .quiet] :=
    .level hupper (.quiet .nothing)
  have hgives' : Gives ["--quiet", "--log-level=warn", "--"] [.quiet, .level (.upTo .warn)] :=
    .quiet (.joined hlower .dashes)
  obtain ⟨hcode, -, -, hother⟩ := haccepted _ hgives (by decide)
  refine ⟨hcode, hother _ _ hgives' (.swap ..), ?_⟩
  have hnot : ¬ ∃ given, Gives ["--quiet", "--quiet"] given ∧ (given.map Given.flag).Nodup := by
    rintro ⟨given, hgives, honce⟩
    obtain ⟨o, hfit⟩ := exists_fit honce
    have hrun := request_eq_run_iff.mpr ⟨given, hgives, hfit⟩
    have hrefuse : request ["--quiet", "--quiet"] = .refuse (.repeated .quiet) := by
      decide +kernel
    rw [hrefuse] at hrun
    cases hrun
  exact ⟨(hrefused hnot).1, (hrefused hnot).2.2.2⟩

end TidyTree.CommandLine
