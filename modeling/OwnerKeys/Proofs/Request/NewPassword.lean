import OwnerKeys.Proofs.Request.Dialogue

/-!
# How a new password is agreed on

The dialogue for a new password is two questions in a row, and either may be the last one. If both
are answered, then the answers and the transcript have one form. If the dialogue ends before that,
the answers that it has come to tell why: the first of them that is no line, or else that the
attempts are used up.
-/

namespace OwnerKeys

instance : DecidablePred Event.IsPrompt
  | .prompted prompt => isTrue ⟨prompt, rfl⟩
  | .called .. | .answered | .reported _ | .noted _ | .printed _ | .entered _ =>
    isFalse (by simp [Event.IsPrompt])

namespace Dialogue

variable {Store Result : Type}

/-! ## The answers that a dialogue comes to -/

/-- What the next prompts get. After the last answer the input has ended. -/
def nextAnswers : List Answer → Nat → List Answer
  | _, 0 => []
  | answers, count + 1 => answers.headD .endOfInput :: nextAnswers answers.tail count

/-- What a dialogue that cannot go on ends with, after it has come to the given answers: it is up to
the first that is no line. -/
def causeOf (reached : List Answer) : RequestError :=
  match reached.find? fun answer => ¬(lineOf answer).isOk with
  | some (.failure message) => .prompt message
  | some (.line _) | some .endOfInput | none => .userAborted

theorem nextAnswers_add (answers : List Answer) (count more : Nat) :
    nextAnswers answers (count + more) =
      nextAnswers answers count ++ nextAnswers (answers.drop count) more := by
  induction count generalizing answers with
  | zero => simp [nextAnswers]
  | succ count ih =>
      rw [Nat.succ_add, nextAnswers, nextAnswers, ih, List.cons_append]
      cases answers with
      | nil => simp
      | cons answer later => rfl

theorem nextAnswers_length (taken later : List Answer) :
    nextAnswers (taken ++ later) taken.length = taken := by
  induction taken with
  | nil => rfl
  | cons answer taken ih =>
      exact congrArg (answer :: ·) ih

theorem isOk_lineOf_of_mem_map {answer : Answer} {lines : List String}
    (mem : answer ∈ lines.map Answer.line) : (lineOf answer).isOk := by
  rcases List.mem_map.mp mem with ⟨line, -, rfl⟩
  rfl

theorem causeOf_lines_append (lines : List String) (reached : List Answer) :
    causeOf (lines.map Answer.line ++ reached) = causeOf reached := by
  have noCause : (lines.map Answer.line).find? (fun answer => ¬(lineOf answer).isOk) = none :=
    List.find?_eq_none.mpr fun answer mem => by simp [isOk_lineOf_of_mem_map mem]
  rw [causeOf, List.find?_append, noCause, Option.none_or, causeOf]

theorem causeOf_lines (lines : List String) :
    causeOf (lines.map Answer.line) = .userAborted := by
  rw [← List.append_nil (lines.map _), causeOf_lines_append]
  rfl

theorem causeOf_of_lineOf {answer : Answer} {error : RequestError}
    (noLine : lineOf answer = .error error) : causeOf [answer] = error := by
  cases answer with
  | line text => cases noLine
  | endOfInput =>
      cases noLine
      rfl
  | failure message =>
      cases noLine
      rfl

/-! ## Counting the prompts -/

/-- Between two machines the operator was asked a number of times. -/
structure Asks (count : Nat) (before after : Machine Store) : Prop where
  store_eq : after.store = before.store
  /-- Every prompt has taken an answer, as long as there were any. -/
  answers_eq : after.answers = before.answers.drop count
  trace_eq : ∃ events, after.trace = before.trace ++ events ∧
    events.countP (fun event => event.IsPrompt) = count

namespace Asks

variable {count more : Nat} {before middle after : Machine Store}

theorem trans (first : Asks count before middle) (second : Asks more middle after) :
    Asks (count + more) before after := by
  rcases first.trace_eq with ⟨earlier, firstTrace, firstCount⟩
  rcases second.trace_eq with ⟨later, secondTrace, secondCount⟩
  refine ⟨second.store_eq.trans first.store_eq, ?_, earlier ++ later, ?_, ?_⟩
  · rw [second.answers_eq, first.answers_eq, List.drop_drop]
  · rw [secondTrace, firstTrace, List.append_assoc]
  · rw [List.countP_append, firstCount, secondCount]

theorem asked (machine : Machine Store) (prompt : Prompt) :
    Asks 1 machine (machine.asked prompt) := by
  refine ⟨rfl, List.drop_one.symm, _, rfl, ?_⟩
  cases machine.nextAnswer with
  | line text => rfl
  | endOfInput => rfl
  | failure message => rfl

end Asks

theorem countP_isPrompt_refusals (question : Question Result) (lines : List String) :
    (question.refusals lines).countP (fun event => event.IsPrompt) = lines.length := by
  induction lines with
  | nil => rfl
  | cons line later ih =>
      rw [Question.refusals_cons, List.countP_append, ih, List.length_cons, Nat.add_comm]
      cases question.remark line with
      | none => rfl
      | some report => rfl

theorem asks_refusals {before : Machine Store} {lines : List String} {rest : List Answer}
    (question : Question Result) (answers : before.answers = lines.map Answer.line ++ rest) :
    Asks lines.length before ⟨before.store, rest, before.trace ++ question.refusals lines⟩ := by
  refine ⟨rfl, ?_, _, rfl, countP_isPrompt_refusals question lines⟩
  rw [answers, List.drop_left' (List.length_map ..)]

/-! ## One question -/

section Question

variable {question : Question Result} {attempts : Nat} {before after : Machine Store}

theorem asks_of_retry_ok {result : Result}
    (ran : Attempt.outcome (retry question (.error .userAborted) attempts) before =
      (.ok result, after)) :
    ∃ (count : Nat) (lines : List String), count ≤ attempts ∧ Asks count before after ∧
      nextAnswers before.answers count = lines.map Answer.line := by
  rcases accepted_of_retry ran nofun with ⟨refused, line, answers, few, _, _, after_eq⟩
  have length : ((refused ++ [line]).map Answer.line).length = refused.length + 1 := by simp
  refine ⟨refused.length + 1, refused ++ [line], few, ⟨by rw [after_eq], ?_, _,
    congrArg Machine.trace after_eq, ?_⟩, ?_⟩
  · rw [answers, List.drop_left' length]
  · rw [List.countP_append, countP_isPrompt_refusals]
    rfl
  · rw [answers, ← length, nextAnswers_length]

/-- If a question is not answered, the answers that it has come to say why. -/
theorem asks_of_retry_error {error : RequestError}
    (ran : Attempt.outcome (retry question (.error .userAborted) attempts) before =
      (.error error, after)) :
    ∃ count ≤ attempts, Asks count before after ∧
      error = causeOf (nextAnswers before.answers count) := by
  have ending := retryOutcome question (.error .userAborted) attempts before
  rw [ran] at ending
  generalize same : Except.error error = ended at ending
  cases ending with
  | accepted => cases same
  | @exhausted refused later answers all allRefused =>
      cases same
      refine ⟨refused.length, Nat.le_of_eq all, asks_refusals question answers, ?_⟩
      rw [answers, ← List.length_map Answer.line, nextAnswers_length, causeOf_lines]
  | @stopped refused rest error answers few allRefused noLine =>
      cases same
      refine ⟨refused.length + 1, few, (asks_refusals question answers).trans (.asked _ _), ?_⟩
      rw [nextAnswers_add, answers, ← List.length_map Answer.line, nextAnswers_length,
        List.drop_left, causeOf_lines_append]
      exact (causeOf_of_lineOf noLine).symm

end Question

/-! ## The dialogue -/

theorem asks_of_newPassword_error {before after : Machine Store} {error : RequestError}
    (ran : Attempt.outcome newPassword before = (.error error, after)) :
    ∃ count ≤ 2 * maxAttempts, Asks count before after ∧
      error = causeOf (nextAnswers before.answers count) := by
  rw [newPassword, firstEntry_eq_retry] at ran
  rcases first : Attempt.outcome (retry .newPassword (.error .userAborted) maxAttempts) before
    with ⟨failure | ⟨line, password⟩, entered⟩
  · rw [Attempt.outcome_bind_error first] at ran
    cases ran
    rcases asks_of_retry_error first with ⟨count, few, asks, cause⟩
    exact ⟨count, by omega, asks, cause⟩
  · rw [Attempt.outcome_bind_ok first] at ran
    simp only [confirm_eq_retry] at ran
    rcases second : Attempt.outcome
      (retry (.confirmation line) (.error .userAborted) maxAttempts) entered
      with ⟨failure | _, confirmed⟩
    · rw [Attempt.outcome_bind_error second] at ran
      cases ran
      rcases asks_of_retry_ok first with ⟨count, lines, few, asks, allLines⟩
      rcases asks_of_retry_error second with ⟨more, fewMore, asksMore, cause⟩
      refine ⟨count + more, by omega, asks.trans asksMore, ?_⟩
      rw [nextAnswers_add, allLines, causeOf_lines_append, ← asks.answers_eq, cause]
    · rw [Attempt.outcome_bind_ok second, Attempt.outcome_pure] at ran
      cases ran

/-- How the dialogue for a new password goes. It gives a password exactly if, after at most two
lines of unacceptable length, there is one of acceptable length, and after at most two other lines
there is the same line again; it takes these answers and no more. In every other case it fails with
at most six prompts: with the message of a failure if this is the first answer it comes to that is
no line, and as aborted otherwise. -/
theorem newPassword_confirms (before : Machine Store) :
    (∀ password after, Attempt.outcome newPassword before = (.ok password, after) ↔
      ∃ refused line others later,
        before.answers = (refused ++ [line] ++ (others ++ [line])).map Answer.line ++ later ∧
        refused.length < 3 ∧ (∀ entry ∈ refused, ¬Password.Acceptable entry) ∧
        others.length < 3 ∧ (∀ entry ∈ others, entry ≠ line) ∧
        Password.ofLine? line = some password ∧
        after = ⟨before.store, later,
          before.trace ++ agreement refused.length others.length⟩) ∧
    ∀ error after, Attempt.outcome newPassword before = (.error error, after) →
      ∃ count ≤ 6, Asks count before after ∧
        error = causeOf (nextAnswers before.answers count) := by
  refine ⟨fun password after => ⟨fun ran => ?_, ?_⟩, fun error after => asks_of_newPassword_error⟩
  · rcases entries_of_newPassword ran with
      ⟨refused, line, others, answers, fewRefused, allRefused, fewOthers, allOther, found, left⟩
    simp only [Password.ofLine_eq_none_iff] at allRefused
    exact ⟨refused, line, others, after.answers, answers, fewRefused, allRefused, fewOthers,
      allOther, found, left⟩
  · rintro ⟨refused, line, others, later, answers, fewRefused, allRefused, fewOthers, allOther,
      found, rfl⟩
    simp only [← Password.ofLine_eq_none_iff] at allRefused
    exact outcome_newPassword answers fewRefused allRefused fewOthers allOther found

end Dialogue

end OwnerKeys
