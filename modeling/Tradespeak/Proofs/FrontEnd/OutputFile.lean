import Tradespeak.Proofs.FrontEnd.Conversation
import Tradespeak.Proofs.FrontEnd.FileStore

/-!
# Answers in a file

* `answerFile_to_output` — the output holds what is written for the lines that the input has once the
  output has been opened.

Principal result: `output_holds_answers_unless_input` — an output that is another file than the input
holds the answers that would be shown on the screen.  One that is the input ends up empty, since it is
opened before the first line is read.
-/

set_option autoImplicit false

namespace Tradespeak

variable {time input output inputPath outputPath held : Text} {fileLine screenLine : List Text}
  {store opened : FileStore} {lines : List Text}

/-- The lines are read from what the input holds once the output has been opened. -/
theorem answerFile_to_output (hopen : store.openRead input = .ok inputPath)
    (hwrite : store.openWrite output = .ok (outputPath, opened))
    (hcontent : (opened.content inputPath).read = (held, none))
    (hlines : Text.HasLines held lines)
    (hanswered : Market.empty.AllAnswered Form.all lines) (time : Text) :
    answerFile time none input (some output) [] store =
      ⟨.exit 0, [], opened.append outputPath
        ((Market.empty.outcomes Form.all lines).flatMap Outcome.written)⟩ := by
  simp only [answerFile, hopen, hwrite, readableLines_of_text hcontent hlines,
    Market.endingAfter_converse hanswered, Market.flatMap_turn_shown hanswered, logged]

/-- **An output that is another file than the input holds the answers to the lines of the input.**
When no arithmetic fails on these lines, the run ends well, shows nothing, and changes no file but the
output, whatever was there before.  The output then holds what the run without an output shows on the
screen.  If the output is the input itself, it loses its content before a line is read, and ends up
empty. -/
theorem output_holds_answers_unless_input
    (hfile : Arguments.read fileLine = .ok ⟨some input, some output, none⟩)
    (hscreen : Arguments.read screenLine = .ok ⟨some input, none, none⟩)
    (hopen : store.openRead input = .ok inputPath)
    (hcontent : (store.content inputPath).read = (held, none))
    (hwrite : store.openWrite output = .ok (outputPath, opened))
    (hlines : Text.HasLines held lines)
    (hanswered : Market.empty.AllAnswered Form.all lines) (time : Text) (typed : Typed) :
    ∃ answers after, answers = (Market.empty.outcomes Form.all lines).flatMap Outcome.written ∧
      run time screenLine typed store = ⟨.exit 0, answers, store⟩ ∧
      run time fileLine typed store = ⟨.exit 0, [], after⟩ ∧
      (∀ other ≠ outputPath, after.get? other = store.get? other) ∧
      (outputPath ≠ inputPath → after.get? outputPath = some (.file (.text answers))) ∧
      (outputPath = inputPath → after.get? outputPath = some (.file (.text []))) := by
  have hopened := FileStore.openWrite_eq_ok hwrite
  have hshown := answerFile_to_screen hopen hcontent hlines hanswered time
  by_cases hsame : outputPath = inputPath
  · have hempty : (opened.content inputPath).read = ([], none) := by
      rw [hopened, hsame, FileStore.content_of_get? (FileStore.get?_insert_self ..)]
      rfl
    have hrun := answerFile_to_output hopen hwrite hempty .nil (Market.allAnswered_nil _ _) time
    obtain ⟨houtput, hothers⟩ := FileStore.get?_of_openWrite hwrite []
    refine ⟨_, _, rfl, ?_, (run_file hfile time typed store).trans hrun, hothers,
      fun hne => absurd hsame hne, fun _ => houtput⟩
    rw [run_file hscreen, hshown]
  · have hkept : opened.content inputPath = store.content inputPath := by
      rw [hopened, FileStore.content, FileStore.content,
        FileStore.get?_insert_of_ne (Ne.symm hsame)]
    have hrun :=
      answerFile_to_output hopen hwrite (hkept ▸ hcontent) hlines hanswered time
    obtain ⟨houtput, hothers⟩ := FileStore.get?_of_openWrite hwrite
      ((Market.empty.outcomes Form.all lines).flatMap Outcome.written)
    refine ⟨_, _, rfl, ?_, (run_file hfile time typed store).trans hrun, hothers,
      fun _ => houtput, fun heq => absurd heq hsame⟩
    rw [run_file hscreen, hshown]

/-- Notes that ask something, and a file that is not empty. -/
def notesAndAnswers : FileStore := Table.ofList
  [("notes".toList, .file (.text "glob is I\r\nhow much is glob?\nwhat".toList)),
    ("answers".toList, .file (.raw [0xff]))]

/-- The lines of the notes. -/
def notedLines : List Text := ["glob is I".toList, "how much is glob?".toList, "what".toList]

/-- The outcomes of the lines. -/
def notedOutcomes : List Outcome :=
  [.learned, .replied "glob is 1".toList, .refused (.unknownForm "what".toList)]

theorem notedLines_spec : (notesAndAnswers.content "notes".toList).read =
      ("glob is I\r\nhow much is glob?\nwhat".toList, none) ∧
    Text.HasLines "glob is I\r\nhow much is glob?\nwhat".toList notedLines ∧
    Market.empty.outcomes Form.all notedLines = notedOutcomes ∧
    Market.empty.AllAnswered Form.all notedLines := by
  have houtcomes : Market.empty.outcomes Form.all notedLines = notedOutcomes := by decide +kernel
  refine ⟨by decide +kernel, Text.hasLines_iff.2 (by decide +kernel), houtcomes, ?_⟩
  simp [Market.AllAnswered, houtcomes, notedOutcomes]

/-- What the file held before is gone. -/
theorem output_holds_answers_unless_input_notes :
    ∃ opened after, Arguments.read ["notes".toList, "-o".toList, "answers".toList] =
        .ok ⟨some "notes".toList, some "answers".toList, none⟩ ∧
      Arguments.read ["notes".toList] = .ok ⟨some "notes".toList, none, none⟩ ∧
      notesAndAnswers.openRead "notes".toList = .ok "notes".toList ∧
      notesAndAnswers.openWrite "answers".toList = .ok ("answers".toList, opened) ∧
      run [] ["notes".toList, "-o".toList, "answers".toList] .nothing notesAndAnswers =
        ⟨.exit 0, [], after⟩ ∧
      after.get? "answers".toList =
        some (.file (.text ("glob is 1\n".toList ++ refusalSentence ++ ['\n']))) := by
  have hfile : Arguments.read ["notes".toList, "-o".toList, "answers".toList] =
      .ok ⟨some "notes".toList, some "answers".toList, none⟩ := rfl
  have hscreen : Arguments.read ["notes".toList] = .ok ⟨some "notes".toList, none, none⟩ := rfl
  have hopen : notesAndAnswers.openRead "notes".toList = .ok "notes".toList :=
    Pattern.eq_ok_of_toOption (by decide +kernel)
  have hwrite : notesAndAnswers.openWrite "answers".toList = .ok ("answers".toList,
      notesAndAnswers.insert "answers".toList (.file (.text []))) :=
    Pattern.eq_ok_of_toOption (by decide +kernel)
  obtain ⟨hcontent, hlines, houtcomes, hanswered⟩ := notedLines_spec
  obtain ⟨answers, after, hanswers, -, hrun, -, houtput, -⟩ :=
    output_holds_answers_unless_input hfile hscreen hopen hcontent hwrite hlines hanswered []
      .nothing
  rw [houtcomes] at hanswers
  subst hanswers
  exact ⟨_, after, hfile, hscreen, hopen, hwrite, hrun, houtput (by decide)⟩

/-- The output does not always hold the answers: it does not if it is the input. -/
theorem output_not_always_answers : ¬ ∀ (store opened : FileStore) (fileLine screenLine : List Text)
    (input output inputPath outputPath held : Text) (lines : List Text) (time : Text)
    (typed : Typed), Arguments.read fileLine = .ok ⟨some input, some output, none⟩ →
      Arguments.read screenLine = .ok ⟨some input, none, none⟩ →
      store.openRead input = .ok inputPath →
      (store.content inputPath).read = (held, none) →
      store.openWrite output = .ok (outputPath, opened) →
      Text.HasLines held lines → Market.empty.AllAnswered Form.all lines →
      (run time fileLine typed store).store.get? outputPath =
        some (.file (.text (run time screenLine typed store).screen)) := by
  intro halways
  obtain ⟨hcontent, hlines, -, hanswered⟩ := notedLines_spec
  have hsame := halways notesAndAnswers (notesAndAnswers.insert "notes".toList (.file (.text [])))
    ["notes".toList, "-o".toList, "notes".toList] ["notes".toList] "notes".toList "notes".toList
    "notes".toList "notes".toList _ notedLines [] .nothing rfl rfl
    (Pattern.eq_ok_of_toOption (by decide +kernel)) hcontent
    (Pattern.eq_ok_of_toOption (by decide +kernel)) hlines hanswered
  have hempty : (run [] ["notes".toList, "-o".toList, "notes".toList] .nothing
      notesAndAnswers).store.get? "notes".toList = some (.file (.text [])) := by
    decide +kernel
  rw [hempty] at hsame
  exact absurd hsame (by decide +kernel)

end Tradespeak
