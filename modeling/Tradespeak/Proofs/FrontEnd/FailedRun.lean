import Tradespeak.Proofs.FrontEnd.Arguments
import Tradespeak.Proofs.FrontEnd.Conversation
import Tradespeak.Proofs.FrontEnd.FileStore

/-!
# Runs that fail

* `Arguments.withoutLog`, `Arguments.read_withoutLog` — a command line without its options for the log
  has the same arguments but for the log, or the same error.
* `OpensLog`, `opensLog_of_openLog` — the ways in which a log is opened or given up.
* `Untouched`, `OpensLog.untouched` — what becomes of the files then: all that was there is as it was, and
  nothing is new but the log, which is empty.
* `CannotOpen`, `answerFile_exit` — a run over a file ends with another status than zero only at a file
  that cannot be opened.
* `run_without_log` — a run that gives up its log is the run without a log, after a warning.

Principal result: `failed_run` — a run that fails has answered nothing, and has at most made an empty log.
-/

set_option autoImplicit false

namespace Tradespeak

/-! ## Command lines without a log -/

namespace Arguments

/-- The arguments without the log. -/
def dropLog (arguments : Arguments) : Arguments := { arguments with log := none }

/-- The command line without the options for the log and the names that they take. -/
def withoutLog : List Text → List Text
  | [] => []
  | [argument] => [argument]
  | argument :: name :: rest =>
    if isOutputOption argument then argument :: name :: withoutLog rest
    else if isLogOption argument then withoutLog rest
    else argument :: withoutLog (name :: rest)

variable {argument name : Text} {rest later : List Text}

theorem readAfter_other_dropLog {given : Arguments} (houtput : isOutputOption argument = false)
    (hlog : isLogOption argument = false)
    (hlater : readAfter { given with input := some argument }.dropLog later =
      (readAfter { given with input := some argument } rest).map dropLog) :
    readAfter given.dropLog (argument :: later) =
      (readAfter given (argument :: rest)).map dropLog := by
  rw [readAfter_other _ houtput hlog, readAfter_other _ houtput hlog]
  split
  · rfl
  show (if given.input.isSome then _ else _) = _
  split
  · rfl
  · exact hlater

theorem readAfter_withoutLog (given : Arguments) (commandLine : List Text) :
    readAfter given.dropLog (withoutLog commandLine) =
      (readAfter given commandLine).map dropLog := by
  induction commandLine using withoutLog.induct generalizing given with
  | case1 => rfl
  | case2 argument =>
    show readAfter given.dropLog [argument] = _
    cases hfile : isOutputOption argument || isLogOption argument with
    | true =>
      rw [readAfter_last _ hfile, readAfter_last _ hfile]
      rfl
    | false =>
      obtain ⟨houtput, hlog⟩ := Bool.or_eq_false_iff.1 hfile
      exact readAfter_other_dropLog houtput hlog rfl
  | case3 argument name rest houtput ih =>
    rw [withoutLog, if_pos houtput, readAfter_output _ houtput, readAfter_output _ houtput]
    exact ih { given with output := some name }
  | case4 argument name rest houtput hlog ih =>
    rw [withoutLog, if_neg houtput, if_pos hlog,
      readAfter_log _ (Bool.eq_false_iff.2 houtput) hlog]
    exact ih { given with log := some name }
  | case5 argument name rest houtput hlog ih =>
    rw [withoutLog, if_neg houtput, if_neg hlog]
    apply readAfter_other_dropLog (Bool.eq_false_iff.2 houtput)
      (Bool.eq_false_iff.2 hlog)
    exact ih { given with input := some argument }

/-- **Without its options for the log, a command line has the same arguments** but for the log, or the
same error. -/
theorem read_withoutLog (commandLine : List Text) :
    read (withoutLog commandLine) = (read commandLine).map dropLog :=
  readAfter_withoutLog ⟨none, none, none⟩ commandLine

end Arguments

variable {arguments : Arguments} {opened : Opened} {store after : FileStore} {content : Content}
  {turns : List Turn} {otherwise : Ending} {status : ℕ} {error : OsError} {input name path : Text}
  {log output : Option Text} {commandLine : List Text}

/-! ## Opening the log -/

/-- The warning that the log is given up. -/
def logWarning (name : Text) (error : OsError) : Text :=
  "Warning: not logging, can't write ".toList ++ name ++ ": ".toList ++ error.message name ++ ['\n']

/-- The ways in which a log is opened, or given up with a warning. -/
inductive OpensLog (store : FileStore) : Option Text → Opened → Prop
  | unnamed : OpensLog store none ⟨none, [], store⟩
  | opened {name path : Text} {after : FileStore}
      (hopen : store.openAppend name = .ok (path, after)) :
      OpensLog store (some name) ⟨some path, [], after⟩
  | givenUp {name : Text} {error : OsError} (hopen : store.openAppend name = .error error)
      (herror : error ≠ .nulInName) :
      OpensLog store (some name) ⟨none, logWarning name error, store⟩

theorem openLog_of_some (hlog : arguments.log = some name) (store : FileStore) :
    openLog arguments store =
      match store.openAppend name with
      | .ok (path, after) => .ok ⟨some path, [], after⟩
      | .error error =>
        if error = .nulInName then .error .nulInName
        else .ok ⟨none, logWarning name error, store⟩ := by
  unfold openLog
  rw [hlog]
  dsimp only
  cases store.openAppend name with
  | ok found => rfl
  | error error => cases error <;> rfl

/-- A log that cannot be opened is given up, unless its name is none. -/
theorem openLog_of_error (hlog : arguments.log = some name)
    (hopen : store.openAppend name = .error error) (herror : error ≠ .nulInName) :
    openLog arguments store = .ok ⟨none, logWarning name error, store⟩ := by
  rw [openLog_of_some hlog, hopen]
  exact if_neg herror

theorem openLog_of_nul (hlog : arguments.log = some name)
    (hopen : store.openAppend name = .error .nulInName) :
    openLog arguments store = .error .nulInName := by
  rw [openLog_of_some hlog, hopen]
  exact if_pos rfl

theorem opensLog_of_openLog (h : openLog arguments store = .ok opened) :
    OpensLog store arguments.log opened := by
  cases hlog : arguments.log with
  | none =>
    unfold openLog at h
    rw [hlog] at h
    cases h
    exact .unnamed
  | some name =>
    rw [openLog_of_some hlog] at h
    split at h
    · rename_i path after hopen
      cases h
      exact .opened hopen
    · rename_i error hopen
      split at h
      · cases h
      · rename_i herror
        cases h
        exact .givenUp hopen herror

/-- What becomes of the files if nothing is done but to open the log, if there is one: all that was
there is as it was, and what is new is the log, which is empty. -/
structure Untouched (log : Option Text) (store after : FileStore) : Prop where
  old : ∀ path entry, store.get? path = some entry → after.get? path = some entry
  new : ∀ path entry, store.get? path = none → after.get? path = some entry →
    entry = .file (.text []) ∧ ∃ name, log = some name ∧ store.find name = .ok (.vacant path)

theorem untouched_self (log : Option Text) (store : FileStore) : Untouched log store store where
  old := fun _ _ h => h
  new := fun path entry hnone hsome => by
    rw [hnone] at hsome
    cases hsome

theorem OpensLog.untouched (h : OpensLog store log opened) : Untouched log store opened.store := by
  cases h with
  | unnamed => exact untouched_self none store
  | givenUp hopen herror => exact untouched_self _ store
  | @opened name path after hopen =>
    rcases FileStore.openAppend_cases hopen with ⟨hfind, rfl⟩ | ⟨held, hfind, rfl⟩
    · have hvacant : store.get? path = none := FileStore.find_found hfind
      refine ⟨fun other entry hold => ?_, fun other entry hnone hnew => ?_⟩
      · have hother : other ≠ path := by
          rintro rfl
          rw [hvacant] at hold
          cases hold
        rw [FileStore.get?_insert_of_ne hother, hold]
      · by_cases hother : other = path
        · subst hother
          rw [FileStore.get?_insert_self] at hnew
          cases hnew
          exact ⟨rfl, name, rfl, hfind⟩
        · rw [FileStore.get?_insert_of_ne hother, hnone] at hnew
          cases hnew
    · exact untouched_self _ _

/-- Where another name than that of the log leads to nothing, there is nothing afterwards. -/
theorem Untouched.vacant (h : Untouched log store after)
    (hname : store.find name = .ok (.vacant path))
    (hlog : ∀ other, log = some other → store.find other ≠ .ok (.vacant path)) :
    after.get? path = none := by
  have hvacant : store.get? path = none := FileStore.find_found hname
  cases hafter : after.get? path with
  | none => rfl
  | some entry =>
    obtain ⟨-, other, hother, hfind⟩ := h.new path entry hvacant hafter
    exact absurd hfind (hlog other hother)

/-! ## How a run ends -/

/-- The input cannot be opened, or it can and the output cannot. -/
inductive CannotOpen (store : FileStore) (input : Text) : Option Text → Text → OsError → Prop
  | input {output : Option Text} {error : OsError} (hopen : store.openRead input = .error error) :
      CannotOpen store input output input error
  | output {path name : Text} {error : OsError} (hread : store.openRead input = .ok path)
      (hopen : store.openWrite name = .error error) :
      CannotOpen store input (some name) name error

/-- A run that ends with a status at a file that cannot be opened has shown the error. -/
theorem notOpened_exit {screen : Text}
    (h : (notOpened name screen error store).ending = .exit status) :
    notOpened name screen error store =
      ⟨.exit 1, screen ++ "Error: ".toList ++ error.message name ++ ['\n'], store⟩ := by
  cases error with
  | nulInName => cases h
  | missing => rfl
  | notDirectory => rfl
  | isDirectory => rfl
  | nameTooLong => rfl

theorem eq_of_endingAfter (h : endingAfter turns otherwise = .exit status) :
    otherwise = .exit status := by
  unfold endingAfter at h
  split at h
  · cases h
  · exact h

theorem eq_zero_of_readableLines (h : (readableLines content).2 = .exit status) : status = 0 := by
  unfold readableLines at h
  split at h
  · cases h
    rfl
  · cases h

theorem answerTyped_exit {time screen : Text} {typed : Typed}
    (h : (answerTyped time log typed screen store).ending = .exit status) : status = 0 := by
  cases eq_of_endingAfter h
  rfl

/-- A run over a file ends well, if it is not broken off, or at a file that cannot be opened. -/
theorem answerFile_exit {time screen : Text}
    (h : (answerFile time log input output screen store).ending = .exit status) :
    status = 0 ∨ ∃ name error, CannotOpen store input output name error ∧
      answerFile time log input output screen store =
        ⟨.exit 1, screen ++ "Error: ".toList ++ error.message name ++ ['\n'], store⟩ := by
  unfold answerFile at h ⊢
  split
  · rename_i error hopen
    simp only [hopen] at h
    exact Or.inr ⟨input, error, .input hopen, notOpened_exit h⟩
  · rename_i path hread
    simp only [hread] at h
    split
    · exact Or.inl (eq_zero_of_readableLines (eq_of_endingAfter h))
    · rename_i name
      dsimp only at h
      split
      · rename_i error hopen
        simp only [hopen] at h
        exact Or.inr ⟨name, error, .output hread hopen, notOpened_exit h⟩
      · rename_i found after hopen
        simp only [hopen] at h
        exact Or.inl (eq_zero_of_readableLines (eq_of_endingAfter h))

/-! ## Runs without a log -/

/-- The report with a text shown before the rest. -/
def Report.preceded (before : Text) (report : Report) : Report :=
  { report with screen := before ++ report.screen }

theorem notOpened_preceded (name before : Text) (error : OsError) (store : FileStore) :
    notOpened name before error store = (notOpened name [] error store).preceded before := by
  cases error <;> simp [notOpened, Report.preceded]

theorem answerFile_preceded (time : Text) (log : Option Text) (input : Text) (output : Option Text)
    (before : Text) (store : FileStore) :
    answerFile time log input output before store =
      (answerFile time log input output [] store).preceded before := by
  unfold answerFile
  split
  · exact notOpened_preceded input before _ store
  · split
    · rfl
    · split
      · exact notOpened_preceded _ before _ store
      · simp [Report.preceded]

theorem answerTyped_preceded (time : Text) (log : Option Text) (typed : Typed) (before : Text)
    (store : FileStore) :
    answerTyped time log typed before store =
      (answerTyped time log typed [] store).preceded before := by
  simp [answerTyped, Report.preceded]

/-- **A run that gives up its log is the run without a log**, after a warning. -/
theorem run_without_log (hread : Arguments.read commandLine = .ok arguments)
    (hlog : arguments.log = some name) (hopen : store.openAppend name = .error error)
    (herror : error ≠ .nulInName) (time : Text) (typed : Typed) :
    run time commandLine typed store =
      (run time (Arguments.withoutLog commandLine) typed store).preceded
        (logWarning name error) := by
  have hread' : Arguments.read (Arguments.withoutLog commandLine) = .ok arguments.dropLog := by
    rw [Arguments.read_withoutLog, hread]
    rfl
  unfold run
  simp only [hread, hread', openLog_of_error hlog hopen herror, Arguments.dropLog]
  split
  · exact answerTyped_preceded ..
  · exact answerFile_preceded ..

/-- **A run that fails has answered nothing.**  If the arguments make no sense, it ends with 2, and the
files are as they were.  If they do, it ends with 1 or else with 0, if it is not broken off.  It ends
with 1 when the input cannot be opened, or the output, and then it shows nothing but an error, after the
warning that there may be, and has done no more to the files than to open the log: all that was there is
as it was, and nothing is new but the log, which is empty.  So there is nothing where the output would
have been made, unless the name of the log leads there too.  A log that cannot be opened does not make
the run fail: the run is that without a log, after a warning.  Only a name that is none, since it holds
the character that ends names, breaks the run off before a line is read. -/
theorem failed_run (time : Text) (commandLine : List Text) (typed : Typed) (store : FileStore) :
    (∀ error, Arguments.read commandLine = .error error →
      run time commandLine typed store =
        ⟨.exit 2, error.message ++ '\n' :: usage ++ ['\n'], store⟩) ∧
    ∀ arguments, Arguments.read commandLine = .ok arguments →
      (∀ status, (run time commandLine typed store).ending = .exit status → status = 0 ∨
        ∃ input name error opened, arguments.input = some input ∧
          OpensLog store arguments.log opened ∧
          CannotOpen opened.store input arguments.output name error ∧
          run time commandLine typed store =
            ⟨.exit 1, opened.screen ++ "Error: ".toList ++ error.message name ++ ['\n'],
              opened.store⟩ ∧
          Untouched arguments.log store opened.store ∧
          ∀ output path, arguments.output = some output → store.find output = .ok (.vacant path) →
            (∀ log, arguments.log = some log → store.find log ≠ .ok (.vacant path)) →
            opened.store.get? path = none) ∧
      ∀ log error, arguments.log = some log → store.openAppend log = .error error →
        run time commandLine typed store =
          if error = .nulInName then ⟨.crash (.name .nulInName), [], store⟩
          else (run time (Arguments.withoutLog commandLine) typed store).preceded
            (logWarning log error) := by
  refine ⟨fun error hread => ?_, fun arguments hread => ⟨fun status hstatus => ?_, ?_⟩⟩
  · unfold run
    rw [hread]
  · cases hopenLog : openLog arguments store with
    | error error =>
      unfold run at hstatus
      simp only [hread, hopenLog] at hstatus
      cases hstatus
    | ok opened =>
      have hopens := opensLog_of_openLog hopenLog
      unfold run at hstatus ⊢
      simp only [hread, hopenLog] at hstatus ⊢
      split at hstatus
      · exact Or.inl (answerTyped_exit hstatus)
      · rename_i input hinput
        rw [hinput]
        refine (answerFile_exit hstatus).imp_right ?_
        rintro ⟨name, error, hcannot, hreport⟩
        refine ⟨input, name, error, opened, rfl, hopens, hcannot, hreport, hopens.untouched, ?_⟩
        intro output path houtput hvacant hlog
        exact hopens.untouched.vacant hvacant hlog
  · intro log error hlog hopen
    split
    · rename_i herror
      subst herror
      unfold run
      simp only [hread, openLog_of_nul hlog hopen]
    · rename_i herror
      exact run_without_log hread hlog hopen herror time typed

/-- A file that is not to be lost. -/
def keptFile : FileStore := Table.ofList [("kept".toList, .file (.text "kept\n".toList))]

/-- A command line on which neither the input is there nor the folder of the log. -/
def missingLine : List Text :=
  ["missing".toList, "-log".toList, "no/log".toList, "-o".toList, "kept".toList]

/-- The output is not opened, and the log is given up. -/
theorem failed_run_missing :
    Arguments.read missingLine =
        .ok ⟨some "missing".toList, some "kept".toList, some "no/log".toList⟩ ∧
      keptFile.openAppend "no/log".toList = .error .missing ∧
      (run [] missingLine .nothing keptFile).ending = .exit 1 ∧
      (run [] missingLine .nothing keptFile).store.get? "kept".toList =
        some (.file (.text "kept\n".toList)) ∧
      run [] missingLine .nothing keptFile =
        (run [] ["missing".toList, "-o".toList, "kept".toList] .nothing keptFile).preceded
          ("Warning: not logging, can't write no/log: ".toList ++
            "[Errno 2] No such file or directory: 'no/log'\n".toList) := by
  have hread : Arguments.read missingLine =
      .ok ⟨some "missing".toList, some "kept".toList, some "no/log".toList⟩ := rfl
  have hopen : keptFile.openAppend "no/log".toList = .error .missing := rfl
  have hending : (run [] missingLine .nothing keptFile).ending = .exit 1 := by decide +kernel
  obtain ⟨-, hrun⟩ := failed_run [] missingLine .nothing keptFile
  obtain ⟨hfails, hgivenUp⟩ := hrun _ hread
  refine ⟨hread, hopen, hending, ?_, ?_⟩
  · obtain hzero | ⟨input, name, error, opened, -, -, -, hreport, huntouched, -⟩ := hfails 1 hending
    · cases hzero
    · rw [hreport]
      exact huntouched.old _ _ (by decide +kernel)
  · rw [hgivenUp _ _ rfl hopen, if_neg (by decide)]
    rfl

/-- A log that cannot be opened is not always given up: a name that is none is an error of its own. -/
theorem log_not_always_given_up : ¬ ∀ (time : Text) (commandLine : List Text) (typed : Typed)
    (store : FileStore) (arguments : Arguments) (log : Text) (error : OsError),
    Arguments.read commandLine = .ok arguments → arguments.log = some log →
      store.openAppend log = .error error →
      (run time commandLine typed store).ending =
        (run time (Arguments.withoutLog commandLine) typed store).ending := by
  intro halways
  have hsame := halways [] ["kept".toList, "-log".toList, "a\x00b".toList] .nothing keptFile
    ⟨some "kept".toList, none, some "a\x00b".toList⟩ "a\x00b".toList .nulInName rfl rfl rfl
  exact absurd hsame (by decide +kernel)

end Tradespeak
