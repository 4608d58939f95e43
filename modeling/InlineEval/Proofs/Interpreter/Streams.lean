import InlineEval.Proofs.Interpreter.Framing

/-! # What the streams of a process tell

The last line of the output that is not blank is a report, or there is none.
Nothing else on the streams can take its place, and no report can pretend that
the process around the program failed. Without a report something is said in
any case: of the error stream if it holds anything, else of the output.
-/

namespace InlineEval

open Text

/-! ## Classes of failures -/

/-- No message is that of a process that failed. -/
theorem ErrorClass.ofMessage_ne (message : Text) :
    ofMessage message ≠ .timeout ∧ ofMessage message ≠ .launch ∧
      ofMessage message ≠ .protocol := by
  unfold ofMessage
  dsimp only
  split_ifs <;> exact ⟨nofun, nofun, nofun⟩

/-- Without a fault of the process, the message alone decides. -/
theorem Outcome.errorClass_ne {outcome : Outcome} (hfault : outcome.fault = none)
    {kind : ErrorClass} (hkind : outcome.errorClass = some kind) :
    kind ≠ .timeout ∧ kind ≠ .launch ∧ kind ≠ .protocol := by
  unfold errorClass at hkind
  split at hkind
  next hsuccess => cases hkind
  next hfailed =>
    rw [hfault, Option.getD_none] at hkind
    rw [← Option.some.inj hkind]
    exact ErrorClass.ofMessage_ne _

namespace Interpreter

/-! ## Lines that stand out -/

/-- A line that is not blank, with nothing but blank lines behind it. -/
def IsLastLine (stream line : Text) : Prop :=
  isBlank line = false ∧ ∃ before after, lines stream = before ++ line :: after ∧
    ∀ later ∈ after, isBlank later = true

/-- A line that passes a test which no line before it passes. -/
def IsFirstLine (wanted : Text → Bool) (stream line : Text) : Prop :=
  wanted line = true ∧ ∃ before after, lines stream = before ++ line :: after ∧
    ∀ earlier ∈ before, wanted earlier = false

theorem find?_lines_eq_some_iff {wanted : Text → Bool} {stream line : Text} :
    (lines stream).find? wanted = some line ↔ IsFirstLine wanted stream line := by
  simp [IsFirstLine, List.find?_eq_some_iff_append]

/-- Searched from its end, a stream has its last line first. -/
theorem lastLine?_eq_some_iff {stream line : Text} :
    lastLine? stream = some line ↔ IsLastLine stream line := by
  rw [lastLine?, List.find?_eq_some_iff_append]
  simp only [Bool.not_eq_true', Bool.not_not, IsLastLine]
  refine and_congr_right fun _ => ?_
  constructor
  · rintro ⟨after, before, hlines, hblank⟩
    refine ⟨before.reverse, after.reverse, ?_, fun later hlater => ?_⟩
    · rw [← List.reverse_reverse (lines stream), hlines]
      simp
    · exact hblank later (List.mem_reverse.mp hlater)
  · rintro ⟨before, after, hlines, hblank⟩
    refine ⟨after.reverse, before.reverse, ?_, fun later hlater => ?_⟩
    · simp [hlines]
    · exact hblank later (List.mem_reverse.mp hlater)

theorem IsLastLine.unique {stream line other : Text} (hline : IsLastLine stream line)
    (hother : IsLastLine stream other) : line = other :=
  Option.some.inj
    ((lastLine?_eq_some_iff.mpr hline).symm.trans (lastLine?_eq_some_iff.mpr hother))

/-- A line that mentions an error is not blank. -/
theorem isBlank_of_occurs {line : Text} (hmention : occurs "Error".toList line = true) :
    isBlank line = false := by
  obtain ⟨before, after, rfl⟩ := occurs_iff.mp hmention
  rw [Bool.eq_false_iff, ne_eq, isBlank_iff]
  intro hspace
  have hletter := hspace 'E' (by simp)
  cases hletter

/-! ## Streams without a report -/

/-- What is said of two streams on which there is no report. -/
inductive Complaint (stdout stderr : Text) : Text → Prop where
  /-- The error stream mentions an error. -/
  | mentioned {line : Text} (hstderr : isBlank stderr = false)
      (hline : IsFirstLine (occurs "Error".toList) stderr line) :
      Complaint stdout stderr (trim line)
  | unmentioned {line : Text} (hstderr : isBlank stderr = false)
      (hnone : ∀ other ∈ lines stderr, occurs "Error".toList other = false)
      (hline : IsFirstLine (fun other => !isBlank other) stderr line) :
      Complaint stdout stderr (trim line)
  | invalid (hstderr : isBlank stderr = true) (hstdout : isBlank stdout = false) :
      Complaint stdout stderr ("Invalid output: ".toList ++ stdout.take 100)
  | silent (hstderr : isBlank stderr = true) (hstdout : isBlank stdout = true) :
      Complaint stdout stderr "No output from evaluation".toList

namespace Complaint

variable {stdout stderr message : Text}

/-- Something is said in any case. -/
theorem ne_nil (hcomplaint : Complaint stdout stderr message) : message ≠ [] := by
  cases hcomplaint with
  | mentioned _ hline =>
      rw [ne_eq, trim_eq_nil_iff, isBlank_of_occurs hline.1]
      exact Bool.false_ne_true
  | unmentioned _ _ hline =>
      rw [ne_eq, trim_eq_nil_iff]
      simpa using hline.1
  | invalid => exact nofun
  | silent => exact nofun

end Complaint

/-- On an error stream that is not blank some line is found. -/
theorem complaint_spec (stdout : Text) {stderr : Text} (hstderr : isBlank stderr = false) :
    Complaint stdout stderr (complaint stderr) := by
  unfold complaint
  cases hmention : (lines stderr).find? (occurs "Error".toList) with
  | some line => exact .mentioned hstderr (find?_lines_eq_some_iff.mp hmention)
  | none =>
      have hnone : ∀ other ∈ lines stderr, occurs "Error".toList other = false := by
        simpa using List.find?_eq_none.mp hmention
      obtain ⟨line, hline⟩ : ∃ line, (lines stderr).find? (!isBlank ·) = some line := by
        rw [← Option.isSome_iff_exists, List.find?_isSome]
        obtain ⟨line, hmem, hkeep⟩ := exists_line_not_blank hstderr
        exact ⟨line, hmem, by rw [hkeep]; rfl⟩
      rw [hline]
      exact .unmentioned hstderr hnone (find?_lines_eq_some_iff.mp hline)

theorem protocolError_spec (stdout stderr : Text) :
    ∃ message, protocolError stdout stderr = .protocol message ∧
      Complaint stdout stderr message := by
  unfold protocolError
  cases hstderr : isBlank stderr with
  | false => exact ⟨_, rfl, complaint_spec stdout hstderr⟩
  | true =>
      cases hstdout : isBlank stdout with
      | false => exact ⟨_, rfl, .invalid hstderr hstdout⟩
      | true => exact ⟨_, rfl, .silent hstderr hstdout⟩

/-! ## Both together -/

/-- A report is read exactly where the output ends in one. -/
theorem readStreams_eq_ok_iff {stdout stderr : Text} {outcome : Outcome} :
    readStreams stdout stderr = .ok outcome ↔
      ∃ line, IsLastLine stdout line ∧ Outcome.parse? (trim line) = some outcome := by
  constructor
  · intro hread
    unfold readStreams at hread
    split at hread
    next found hfound =>
      obtain ⟨line, hline, hparse⟩ := Option.bind_eq_some_iff.mp hfound
      cases hread
      exact ⟨line, lastLine?_eq_some_iff.mp hline, hparse⟩
    next => cases hread
  · rintro ⟨line, hline, hparse⟩
    exact readStreams_of_lastLine? (lastLine?_eq_some_iff.mpr hline) hparse stderr

theorem readStreams_of_no_report {stdout stderr : Text}
    (hnone : ∀ outcome, readStreams stdout stderr ≠ .ok outcome) :
    readStreams stdout stderr = .error (protocolError stdout stderr) := by
  unfold readStreams at hnone ⊢
  split at hnone
  next outcome _ => exact absurd rfl (hnone outcome)
  next => rfl

/-- The streams of a process hold a report, which alone decides what is read
and which tells of no fault of the process, or they are complained of. -/
theorem streams_told_apart (stdout stderr : Text) :
    let read := readStreams stdout stderr
    (∀ outcome, read = .ok outcome ↔
      ∃ line, IsLastLine stdout line ∧ Outcome.parse? (trim line) = some outcome) ∧
    (∀ outcome, read = .ok outcome →
      (∀ kind, outcome.errorClass = some kind →
        kind ≠ .timeout ∧ kind ≠ .launch ∧ kind ≠ .protocol) ∧
      ∀ line other more, IsLastLine stdout line → IsLastLine other line →
        readStreams other more = .ok outcome) ∧
    ((∀ outcome, read ≠ .ok outcome) →
      ∃ message, read = .error (.protocol message) ∧ Complaint stdout stderr message ∧
        message ≠ [] ∧ (outcomeOf read).error = some message ∧
        (outcomeOf read).errorClass = some .protocol) := by
  intro read
  refine ⟨fun outcome => readStreams_eq_ok_iff, fun outcome hread => ?report, fun hnone => ?error⟩
  case report =>
    obtain ⟨line, hline, hparse⟩ := readStreams_eq_ok_iff.mp hread
    refine ⟨fun kind => Outcome.errorClass_ne (Outcome.fault_of_parse? hparse), ?_⟩
    intro same other more hsame hother
    rw [hsame.unique hline] at hother
    exact readStreams_eq_ok_iff.mpr ⟨line, hother, hparse⟩
  case error =>
    obtain ⟨message, hmessage, hcomplaint⟩ := protocolError_spec stdout stderr
    have herror : read = .error (.protocol message) := by
      rw [← hmessage]
      exact readStreams_of_no_report hnone
    refine ⟨message, herror, hcomplaint, hcomplaint.ne_nil, ?_, ?_⟩
    · rw [herror]
      rfl
    · rw [herror]
      rfl

/-- A report that claims to be a fault of the process is read as a failure of
the program. With a word behind it there is no report, and the class of the
error stream's message is not taken from that message. -/
theorem streams_told_apart_forged :
    let report := "\x7b\"success\":false,\"error\":\"Timeout: 5s\",\"fault\":\"Timeout\"\x7d".toList
    let outcome := Outcome.failure "Timeout: 5s".toList
    let stderr := "\u00a0\n  Killed\n Name Error: x\u3000\n".toList
    readStreams (report ++ "\n\u00a0\n".toList) stderr = .ok outcome ∧
      outcome.errorClass = some (.other "Timeout".toList) ∧
      (∀ other more, IsLastLine other report → readStreams other more = .ok outcome) ∧
      (∀ outcome, readStreams (report ++ "\nbye".toList) stderr ≠ .ok outcome) ∧
      Complaint (report ++ "\nbye".toList) stderr "Name Error: x".toList ∧
      (outcomeOf (readStreams (report ++ "\nbye".toList) stderr)).errorClass =
        some .protocol := by
  intro report outcome stderr
  have hlast : lastLine? (report ++ "\n\u00a0\n".toList) = some report := by decide +kernel
  have hparse : Outcome.parse? (trim report) = some outcome := by decide +kernel
  have hread := readStreams_of_lastLine? hlast hparse stderr
  have hclass : outcome.errorClass = some (.other "Timeout".toList) := by decide +kernel
  have hword : lastLine? (report ++ "\nbye".toList) = some "bye".toList := by decide +kernel
  have hnone : ∀ outcome, readStreams (report ++ "\nbye".toList) stderr ≠ .ok outcome := by
    intro outcome hread
    obtain ⟨line, hline, hparse⟩ := readStreams_eq_ok_iff.mp hread
    rw [hline.unique (lastLine?_eq_some_iff.mp hword)] at hparse
    have hrefused : Outcome.parse? (trim "bye".toList) = none := by decide +kernel
    rw [hrefused] at hparse
    cases hparse
  obtain ⟨-, hreport, -⟩ := streams_told_apart (report ++ "\n\u00a0\n".toList) stderr
  obtain ⟨-, -, herror⟩ := streams_told_apart (report ++ "\nbye".toList) stderr
  obtain ⟨message, hmessage, hcomplaint, -, -, hprotocol⟩ := herror hnone
  obtain rfl : message = "Name Error: x".toList := by
    have hcomplain : protocolError (report ++ "\nbye".toList) stderr =
        .protocol "Name Error: x".toList := by decide +kernel
    rw [readStreams_of_no_report hnone, hcomplain] at hmessage
    cases hmessage
    rfl
  refine ⟨hread, hclass, ?_, hnone, hcomplaint, hprotocol⟩
  intro other more hother
  exact (hreport outcome hread).2 report other more (lastLine?_eq_some_iff.mp hlast) hother

end Interpreter

end InlineEval
