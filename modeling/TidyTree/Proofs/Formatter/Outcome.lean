/-
TidyTree.Proofs.Formatter.Outcome — what comes of running the command on
one file.

The command is started once; what it answers and what it logs hangs on
whether it started and on the word with which it ended
(`outcome_of_launch`).  `WaitStatus.Says` reads that word bit by bit and
does not know `ending`: its five conditions leave out no word and share
none, so code, signal and text, all taken from the ending, agree with
the bits.
-/
import TidyTree.Formatter.Process
import TidyTree.Proofs.Summary.Reading
import TidyTree.Suffix

namespace TidyTree

namespace WaitStatus

/-! ## 1. The bits of a word -/

/-- The number made of `width` bits of the word from the bit `start` on. -/
def bits (w : WaitStatus) (start width : Nat) : Nat := (w.word.extractLsb' start width).toNat

/-- What the bits of a word say. -/
inductive Says (w : WaitStatus) : Ending → Prop
  | exited : w.bits 0 7 = 0 → Says w (.exited (w.bits 8 8))
  | killed : 1 ≤ w.bits 0 7 → w.bits 0 7 ≤ 126 →
      Says w (.killed ⟨w.bits 0 7⟩ (w.word.getLsbD 7))
  | stopped : w.bits 0 8 = 0x7f → Says w (.stopped ⟨w.bits 8 8⟩)
  | continued : w.word = 0xffff → Says w .continued
  | unrecognised : w.bits 0 8 = 0xff → w.word ≠ 0xffff → Says w .unrecognised

variable {w : WaitStatus}

theorem bits_eq (w : WaitStatus) (start width : Nat) :
    w.bits start width = w.toNat / 2 ^ start % 2 ^ width := by
  rw [bits, BitVec.extractLsb'_toNat, Nat.shiftRight_eq_div_pow, toNat]

/-- The low seven bits are part of the low byte. -/
theorem bits_low (w : WaitStatus) : w.bits 0 7 = w.bits 0 8 % 128 := by
  rw [bits_eq, bits_eq]
  omega

/-- How the word is read, in terms of its bits. -/
theorem ending_eq (w : WaitStatus) :
    w.ending =
      if w.bits 0 7 = 0 then .exited (w.bits 8 8)
      else if w.bits 0 7 < 127 then .killed ⟨w.bits 0 7⟩ (w.word.getLsbD 7)
      else if w.bits 0 8 = 127 then .stopped ⟨w.bits 8 8⟩
      else if w.word = 0xffff then .continued
      else .unrecognised := by
  have hlow : w.toNat % 128 = w.bits 0 7 := by rw [bits_eq]; simp
  have hbyte : w.toNat % 256 = w.bits 0 8 := by rw [bits_eq]; simp
  have hsecond : w.toNat / 256 % 256 = w.bits 8 8 := by rw [bits_eq]; simp
  have hcore : decide (w.toNat / 128 % 2 = 1) = w.word.getLsbD 7 := by
    rw [BitVec.getLsbD, Nat.testBit_eq_decide_div_mod_eq]
    rfl
  have hword : (w.toNat = 0xffff) = (w.word = 0xffff) :=
    propext (BitVec.toNat_inj (y := 0xffff))
  simp only [ending, hlow, hbyte, hsecond, hcore, hword]

/-- What a word says is one of the things its bits say. -/
theorem says_ending (w : WaitStatus) : w.Says w.ending := by
  have hlow := bits_low w
  have hbyte : w.bits 0 8 < 256 := BitVec.isLt _
  rw [ending_eq]
  split
  · next h => exact .exited h
  · split
    · exact .killed (by omega) (by omega)
    · split
      · next h => exact .stopped h
      · split
        · next h => exact .continued h
        · next h => exact .unrecognised (by omega) h

/-- The bits of a word say one thing only. -/
theorem Says.eq_ending {e : Ending} (h : w.Says e) : e = w.ending := by
  have hlow := bits_low w
  rw [ending_eq]
  cases h with
  | exited h => rw [if_pos h]
  | killed hpos hle => rw [if_neg (by omega), if_pos (by omega)]
  | stopped h => rw [if_neg (by omega), if_neg (by omega), if_pos h]
  | continued h =>
    have hbyte : w.bits 0 8 = 0xff := by rw [bits, h]; rfl
    rw [if_neg (by omega), if_neg (by omega), if_neg (by omega), if_pos h]
  | unrecognised h hne =>
    rw [if_neg (by omega), if_neg (by omega), if_neg (by omega), if_neg hne]

theorem existsUnique_says (w : WaitStatus) : ∃! e, w.Says e :=
  ⟨w.ending, says_ending w, fun _ h => h.eq_ending⟩

/-! ## 2. What is shown of a status -/

/-- The text, the code and the signal of a status that says this.  The text of a signal is its
number, perhaps with a name in parentheses. -/
def Shows (w : WaitStatus) : Ending → Prop
  | .exited c => w.text = "exit status: " ++ toString c ∧ w.code? = some c ∧ w.signal? = none
  | .killed s core =>
    (∃ name, (name = "" ∨ ∃ inside, name = " (" ++ inside ++ ")") ∧
      w.text = "signal: " ++ toString s.number ++ name ++ (if core then " (core dumped)" else "")) ∧
    hasEnding w.text " (core dumped)" = core ∧ w.code? = none ∧ w.signal? = some s
  | .stopped s =>
    w.text = "stopped (not terminated) by signal: " ++ s.text ∧ w.code? = none ∧ w.signal? = none
  | .continued => w.text = "continued (WIFCONTINUED)" ∧ w.code? = none ∧ w.signal? = none
  | .unrecognised =>
    w.text = "unrecognised wait status: " ++ toString w.word.toInt ++ " " ++ w.hex ∧
      w.code? = none ∧ w.signal? = none

theorem text_signal (s : Signal) :
    ∃ name, (name = "" ∨ ∃ inside, name = " (" ++ inside ++ ")") ∧
      s.text = toString s.number ++ name := by
  unfold Signal.text
  cases s.name? with
  | none => exact ⟨"", Or.inl rfl, String.append_empty.symm⟩
  | some inside => exact ⟨_, Or.inr ⟨inside, rfl⟩, by simp only [String.append_assoc]⟩

theorem notMem_name {s : Signal} {inside : String} (h : s.name? = some inside) :
    'd' ∉ inside.toList := by
  have hnames : ∀ name ∈ Signal.names, 'd' ∉ name.toList := by decide
  unfold Signal.name? at h
  split at h
  · cases h
  · exact hnames inside (List.mem_of_getElem? h)

/-- No signal is called anything with a small letter of the word "dumped". -/
theorem notMem_text_signal (s : Signal) : 'd' ∉ ("signal: " ++ s.text).toList := by
  have hnumber : 'd' ∉ (toString s.number).toList := fun h =>
    absurd (Report.isDigit_of_mem_toString h) (by decide)
  rw [Nat.toString_eq_repr, Nat.toList_repr] at hnumber
  unfold Signal.text
  cases hname : s.name? with
  | none => simp [hnumber]
  | some inside => simp [hnumber, notMem_name hname]

/-- The text of a killed process ends in the words on a core file if it left one. -/
theorem hasEnding_core (s : Signal) (core : Bool) :
    hasEnding ("signal: " ++ s.text ++ (if core then " (core dumped)" else "")) " (core dumped)" =
      core := by
  cases core with
  | true => exact (hasEnding_iff _ _).mpr ⟨_, rfl⟩
  | false =>
    rw [Bool.eq_false_iff]
    intro h
    obtain ⟨stem, hstem⟩ := (hasEnding_iff _ _).mp h
    apply notMem_text_signal s
    simp only [Bool.false_eq_true, if_false, String.append_empty] at hstem
    rw [hstem]
    simp

theorem shows_ending (w : WaitStatus) : w.Shows w.ending := by
  cases h : w.ending with
  | exited c => simp [Shows, text, code?, signal?, h]
  | killed s core =>
    have htext : w.text = "signal: " ++ s.text ++ (if core then " (core dumped)" else "") := by
      simp only [text, h]
    obtain ⟨name, hname, hsignal⟩ := text_signal s
    refine ⟨⟨name, hname, ?_⟩, ?_, by simp [code?, h], by simp [signal?, h]⟩
    · rw [htext, hsignal]
      simp only [String.append_assoc]
    · rw [htext]
      exact hasEnding_core s core
  | stopped s => simp [Shows, text, code?, signal?, h]
  | continued => simp [Shows, text, code?, signal?, h]
  | unrecognised => simp [Shows, text, code?, signal?, h]

theorem Says.shows {e : Ending} (h : w.Says e) : w.Shows e := by
  rw [h.eq_ending]
  exact shows_ending w

/-- A status is called an exit with code 0 exactly if its low byte but for the top bit and the byte
above are zero; the word need not be. -/
theorem text_eq_exit_zero_iff (w : WaitStatus) :
    w.text = "exit status: 0" ↔ w.bits 0 7 = 0 ∧ w.bits 8 8 = 0 := by
  have hshows := shows_ending w
  constructor
  · intro h
    cases he : w.ending with
    | exited c =>
      rw [he] at hshows
      have hdigits : ("exit status: " ++ toString c).toList = "exit status: 0".toList := by
        rw [← hshows.1, h]
      rw [String.toList_append] at hdigits
      have hzero : (toString c).toList = ['0'] :=
        (List.append_right_inj "exit status: ".toList).mp hdigits
      have hc := Report.ofDigitChars_toString c
      rw [hzero] at hc
      have hsays := says_ending w
      rw [he] at hsays
      cases hsays with
      | exited hlow => exact ⟨hlow, hc.symm⟩
    | killed s core =>
      rw [he] at hshows
      obtain ⟨⟨name, -, htext⟩, -⟩ := hshows
      rw [h] at htext
      simpa using congrArg (fun t => t.toList.head?) htext
    | stopped s =>
      rw [he] at hshows
      have htext := h.symm.trans hshows.1
      simpa using congrArg (fun t => t.toList.head?) htext
    | continued =>
      rw [he] at hshows
      exact absurd (h.symm.trans hshows.1) (by decide)
    | unrecognised =>
      rw [he] at hshows
      have htext := h.symm.trans hshows.1
      simpa using congrArg (fun t => t.toList.head?) htext
  · rintro ⟨hlow, hsecond⟩
    have h := (Says.exited hlow).shows.1
    rw [h, hsecond]
    rfl

end WaitStatus

/-- What can be seen of what a program prints, if it is started. -/
def Launch.prints : Launch → List Sign
  | .notStarted _ => []
  | .ended _ printed _ => printed.map fun (stream, text) => .printed stream text

namespace Command

/-! ## 3. One call -/

variable {c : Command} {launch : Launcher} {path : String} {files : FileSystem}

/-- The two records of a call are never taken for one another. -/
theorem finished_ne_starting (c : Command) (path : String) : c.finished path ≠ starting path := by
  intro h
  have hmessage : c.program ++ " finished on " ++ path = "Formatting " ++ path :=
    congrArg Record.message h
  have hlength := congrArg String.length hmessage
  simp only [String.length_append] at hlength
  have hshort : "Formatting ".length = 11 := rfl
  have hlong : " finished on ".length = 13 := rfl
  omega

/-- The record of a file that was formatted is not seen before the program has ended. -/
theorem finished_notMem (c : Command) (path : String) (launched : Launch) :
    Sign.record (c.finished path) ∉
      Sign.record (starting path) :: .launch (c.invocation path) :: launched.prints := by
  have hprints : Sign.record (c.finished path) ∉ launched.prints := by
    cases launched with
    | notStarted e => exact List.not_mem_nil
    | ended w printed after => simp [Launch.prints]
  simp [finished_ne_starting, hprints]

theorem formatter_of_notStarted {e : SystemError}
    (h : launch (c.invocation path) files = .notStarted e) :
    (c.formatter launch path () files).outcome = .error (.spawn c.program path e) ∧
      (c.formatter launch path () files).signs =
        [.record (starting path), .launch (c.invocation path)] := by
  simp only [formatter, h, and_self]

theorem formatter_of_failed {w : WaitStatus} {printed : List (Stream × String)}
    {after : FileSystem} (h : launch (c.invocation path) files = .ended w printed after)
    (hw : w.word ≠ 0) :
    (c.formatter launch path () files).outcome = .error (.failed c.program path w) ∧
      (c.formatter launch path () files).signs = .record (starting path) ::
        .launch (c.invocation path) :: (Launch.ended w printed after).prints := by
  have hfailed : w.isSuccess = false := beq_eq_false_iff_ne.mpr hw
  simp only [formatter, h, hfailed]
  exact ⟨rfl, rfl⟩

theorem formatter_of_success {w : WaitStatus} {printed : List (Stream × String)}
    {after : FileSystem} (h : launch (c.invocation path) files = .ended w printed after)
    (hw : w.word = 0) :
    (c.formatter launch path () files).outcome = .ok () ∧
      (c.formatter launch path () files).signs = .record (starting path) ::
        .launch (c.invocation path) :: (Launch.ended w printed after).prints ++
          [.record (c.finished path)] := by
  have hsuccess : w.isSuccess = true := beq_iff_eq.mpr hw
  simp only [formatter, h, hsuccess]
  exact ⟨rfl, rfl⟩

/-- **Outcome of one invocation.**  The command is started once on the file, behind a record that
says so.  The call answers that it could not be started exactly if it was not, with the error of the
system; that it failed exactly if it ended with another word than zero, with that word; and else
that all is well, behind a second record that is on no path to an error.  Of every word exactly one
thing is said by its bits, and it decides text, code and signal, of which the last two never come
together; a word that is not zero may yet be called an exit with code 0. -/
theorem outcome_of_launch (c : Command) (launch : Launcher) (path : String)
    (files : FileSystem) :
    let reply := c.formatter launch path () files
    let launched := launch ⟨c.program, [c.flag, path]⟩ files
    let before : List Sign :=
      [.record ⟨.debug, .formatter, "Formatting " ++ path⟩, .launch ⟨c.program, [c.flag, path]⟩]
    let finished : Sign := .record ⟨.debug, .formatter, c.program ++ " finished on " ++ path⟩
    (∀ program p e, reply.outcome = .error (.spawn program p e) ↔
      launched = .notStarted e ∧ program = c.program ∧ p = path) ∧
    (∀ program p w, reply.outcome = .error (.failed program p w) ↔
      (∃ printed after, launched = .ended w printed after) ∧ w.word ≠ 0 ∧
        program = c.program ∧ p = path) ∧
    (reply.outcome = .ok () ↔ ∃ printed after, launched = .ended ⟨0⟩ printed after) ∧
    (reply.outcome = .ok () ↔ reply.signs = before ++ launched.prints ++ [finished]) ∧
    ((∃ e, reply.outcome = .error e) ↔ reply.signs = before ++ launched.prints) ∧
    finished ∉ before ++ launched.prints ∧
    ∀ w : WaitStatus, (∃! e, w.Says e) ∧ (∀ e, w.Says e → w.Shows e) ∧
      (w.code? = none ∨ w.signal? = none) ∧
      (w.text = "exit status: 0" ↔ w.bits 0 7 = 0 ∧ w.bits 8 8 = 0) := by
  intro reply launched before finished
  have hword : ∀ w : WaitStatus, (∃! e, w.Says e) ∧ (∀ e, w.Says e → w.Shows e) ∧
      (w.code? = none ∨ w.signal? = none) ∧
      (w.text = "exit status: 0" ↔ w.bits 0 7 = 0 ∧ w.bits 8 8 = 0) := fun w =>
    ⟨w.existsUnique_says, fun _ h => h.shows, w.code?_eq_none_or_signal?_eq_none,
      w.text_eq_exit_zero_iff⟩
  have hnot : finished ∉ before ++ launched.prints := finished_notMem c path launched
  cases hl : launched with
  | notStarted e =>
    obtain ⟨houtcome, hsigns⟩ : reply.outcome = .error (.spawn c.program path e) ∧
        reply.signs = before ++ launched.prints := by
      rw [hl]
      exact formatter_of_notStarted hl
    rw [← hl, houtcome, hsigns]
    refine ⟨fun program p e' => ?_, ?_, ?_, ?_, ?_, hnot, hword⟩
    · rw [hl]
      constructor
      · rintro ⟨⟩
        exact ⟨rfl, rfl, rfl⟩
      · rintro ⟨he, rfl, rfl⟩
        cases he
        rfl
    · simp [hl]
    · simp [hl]
    · simp
    · simp
  | ended w printed after =>
    by_cases hw : w.word = 0
    · obtain ⟨houtcome, hsigns⟩ : reply.outcome = .ok () ∧
          reply.signs = before ++ launched.prints ++ [finished] := by
        rw [hl]
        exact formatter_of_success hl hw
      rw [← hl, houtcome, hsigns]
      refine ⟨by simp [hl], fun program p w' => ?_, ?_, by simp, by simp, hnot, hword⟩
      · rw [hl]
        constructor
        · rintro ⟨⟩
        · rintro ⟨⟨printed', after', he⟩, hw', -⟩
          cases he
          exact absurd hw hw'
      · cases w
        exact ⟨fun _ => ⟨printed, after, by rw [hl, ← hw]⟩, fun _ => rfl⟩
    · obtain ⟨houtcome, hsigns⟩ : reply.outcome = .error (.failed c.program path w) ∧
          reply.signs = before ++ launched.prints := by
        rw [hl]
        exact formatter_of_failed hl hw
      rw [← hl, houtcome, hsigns]
      refine ⟨by simp [hl], fun program p w' => ?_, ?_, by simp, by simp, hnot, hword⟩
      · rw [hl]
        constructor
        · rintro ⟨⟩
          exact ⟨⟨printed, after, rfl⟩, hw, rfl, rfl⟩
        · rintro ⟨⟨printed', after', he⟩, -, rfl, rfl⟩
          cases he
          rfl
      · rw [hl]
        constructor
        · rintro ⟨⟩
        · rintro ⟨printed', after', he⟩
          cases he
          exact absurd rfl hw

/-- In the example the program ends with a word that says exit code 0 and is not zero. -/
theorem sample_failed_with_code_zero :
    let launch : Launcher := fun _ files => .ended ⟨0x10000⟩ [(.error, "no")] files
    (default.formatter launch "src/a.h" () .empty).outcome =
      .error (.failed "clang-format" "src/a.h" ⟨0x10000⟩) ∧
    (⟨0x10000⟩ : WaitStatus).Says (.exited 0) ∧
    (⟨0x10000⟩ : WaitStatus).Shows (.exited 0) := by
  intro launch
  obtain ⟨-, hfailed, -, -, -, -, hword⟩ := outcome_of_launch default launch "src/a.h" .empty
  have hsays : (⟨0x10000⟩ : WaitStatus).Says (.exited 0) := .exited (by decide)
  exact ⟨(hfailed _ _ _).mpr ⟨⟨_, _, rfl⟩, by decide, rfl, rfl⟩, hsays, (hword _).2.1 _ hsays⟩

end Command

end TidyTree
