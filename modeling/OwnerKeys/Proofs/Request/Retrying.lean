import OwnerKeys.Proofs.Machine.Frame
import OwnerKeys.Request.Dialogue

/-!
# Asking until a line is accepted

All dialogues are made of one loop: a line is asked for, and if it is refused the operator may be
told why and is asked again, as long as there are attempts left. `retry` is that loop for any
question, and the loops of the dialogues are equal to it. It ends in one of three ways: a line is
accepted, the attempts are used up, or there is no line. Which way it is, which answers are taken
and what the operator gets to see is settled by the answers alone: that is `retryOutcome`.
-/

namespace OwnerKeys

theorem Password.ofLine_eq_none_iff {line : String} :
    Password.ofLine? line = none ↔ ¬Password.Acceptable line := by
  unfold Password.ofLine?
  split <;> simp_all

namespace Dialogue

variable {Store Result : Type}

/-! ## Asking once -/

/-- What an answer is to a dialogue that has to have a line. -/
def lineOf : Answer → Except RequestError String
  | .line text => .ok text
  | .endOfInput => .error .userAborted
  | .failure message => .error (.prompt message)

theorem exists_line_of_lineOf {answers : List Answer} {line : String}
    (isLine : lineOf (answers.headD .endOfInput) = .ok line) :
    ∃ later, answers = .line line :: later := by
  rcases answers with - | ⟨answer, later⟩
  · cases isLine
  · cases answer with
    | line text =>
        cases isLine
        exact ⟨later, rfl⟩
    | endOfInput => cases isLine
    | failure message => cases isLine

theorem outcome_readLine (prompt : Prompt) (machine : Machine Store) :
    Attempt.outcome (readLine prompt) machine =
      (lineOf machine.nextAnswer, machine.asked prompt) := by
  simp only [readLine, Attempt.outcome_perform_bind, Action.outcome_ask]
  cases machine.nextAnswer with
  | line text => rfl
  | endOfInput => rfl
  | failure message => rfl

theorem readLine_succeeds (prompt : Prompt) {line : String} {later : List Answer}
    {machine : Machine Store} (answers : machine.answers = .line line :: later) :
    Attempt.outcome (readLine prompt) machine = (.ok line, machine.asked prompt) ∧
      (machine.asked prompt).answers = later := by
  have next : machine.nextAnswer = .line line := by
    simp [Machine.nextAnswer, answers]
  constructor
  · rw [outcome_readLine, next]
    rfl
  · rw [Machine.answers_asked, answers]
    rfl

theorem keeps_readLine (prompt : Prompt) :
    (readLine prompt : Attempt Store RequestError String).Keeps
      (Machine.Adds Event.IsDialogue) := by
  intro machine
  rw [outcome_readLine]
  exact Machine.Adds.asked machine prompt

/-! ## Asking again -/

/-- What the operator is asked for at a prompt. -/
structure Question (Result : Type) where
  prompt : Prompt
  /-- What a line that is accepted gives. -/
  judge : String → Option Result
  /-- What the operator is told about a line that is refused. -/
  remark : String → Option Report

namespace Question

/-- A new password of acceptable length; the line is kept as well. -/
def newPassword : Question (String × Password) where
  prompt := .newPassword
  judge line := (Password.ofLine? line).map (line, ·)
  remark _ := some .badLength

/-- A line that was entered before. -/
def confirmation (line : String) : Question Unit where
  prompt := .confirmation
  judge again := if again = line then some () else none
  remark _ := some .mismatch

/-- A password that reproduces the stored tag of a list. -/
def oldPassword (stored : AuthTag) (list : Option Bytes) : Question Bool where
  prompt := .oldPassword
  judge line := (Password.ofLine? line).bind fun password =>
    if AuthTag.derive list password = stored then some true else none
  remark line := if Password.Acceptable line then none else some .invalid

/-- What happens when lines are entered and refused. -/
def refusals (question : Question Result) (lines : List String) : List Event :=
  lines.flatMap fun line =>
    .prompted question.prompt :: .answered :: ((question.remark line).map .reported).toList

/-- What happens when a line is entered and accepted. -/
def acceptance (question : Question Result) : List Event :=
  [.prompted question.prompt, .answered]

@[simp]
theorem refusals_nil (question : Question Result) : question.refusals [] = [] := rfl

theorem refusals_cons (question : Question Result) (line : String) (later : List String) :
    question.refusals (line :: later) =
      .prompted question.prompt :: .answered :: ((question.remark line).map .reported).toList ++
        question.refusals later := rfl

end Question

/-- Tells the operator something about the line that was entered, or nothing. -/
def tell : Option Report → Attempt Store RequestError Unit
  | none => return ()
  | some report => perform (Action.emit (.reported report))

/-- Asks a question until a line is accepted, for a number of attempts. -/
def retry (question : Question Result) (givenUp : Except RequestError Result) :
    Nat → Attempt Store RequestError Result
  | 0 => ExceptT.mk (pure givenUp)
  | attempts + 1 => do
    let line ← readLine question.prompt
    match question.judge line with
    | some result => return result
    | none =>
      tell (question.remark line)
      retry question givenUp attempts

theorem keeps_tell (report : Option Report) :
    (tell report : Attempt Store RequestError Unit).Keeps (Machine.Adds Event.IsDialogue) := by
  cases report with
  | none => exact Attempt.keeps_pure ()
  | some report =>
      exact fun machine => Machine.Adds.advance machine (by simp [Event.IsDialogue])

/-- Asking a question leaves the store alone. -/
theorem keeps_retry (question : Question Result) (givenUp : Except RequestError Result)
    (attempts : Nat) :
    (retry question givenUp attempts : Attempt Store RequestError Result).Keeps
      (Machine.Adds Event.IsDialogue) := by
  induction attempts with
  | zero => exact fun machine => Machine.Adds.refl machine
  | succ attempts ih =>
      refine (keeps_readLine question.prompt).bind fun line => ?_
      split
      · exact Attempt.keeps_pure _
      · exact (keeps_tell _).bind fun _ => ih

/-! ## The loops of the dialogues -/

theorem firstEntry_eq_retry (attempts : Nat) :
    (firstEntry attempts : Attempt Store RequestError (String × Password)) =
      retry .newPassword (.error .userAborted) attempts := by
  induction attempts with
  | zero => rfl
  | succ attempts ih =>
      rw [firstEntry, retry, ih]
      congr 1
      funext line
      cases found : Password.ofLine? line <;> simp [Question.newPassword, found, tell]

theorem confirm_eq_retry (line : String) (attempts : Nat) :
    (confirm line attempts : Attempt Store RequestError Unit) =
      retry (.confirmation line) (.error .userAborted) attempts := by
  induction attempts with
  | zero => rfl
  | succ attempts ih =>
      rw [confirm, retry, ih]
      congr 1
      funext again
      by_cases same : again = line <;> simp [Question.confirmation, same, tell]

theorem challengeWithin_eq_retry (stored : AuthTag) (list : Option Bytes) (attempts : Nat) :
    (challengeWithin stored list attempts : Attempt Store RequestError Bool) =
      retry (.oldPassword stored list) (.ok false) attempts := by
  induction attempts with
  | zero => rfl
  | succ attempts ih =>
      rw [challengeWithin, retry, ih]
      congr 1
      funext line
      cases found : Password.ofLine? line with
      | none =>
          simp [Question.oldPassword, found, Password.ofLine_eq_none_iff.mp found, tell]
      | some password =>
          have acceptable := Password.acceptable_of_ofLine found
          by_cases derived : AuthTag.derive list password = stored <;>
            simp [Question.oldPassword, found, derived, acceptable, tell]

/-! ## How the loop ends -/

section Outcome

variable {question : Question Result} {givenUp : Except RequestError Result}
  {before : Machine Store} {refused : List String} {line : String} {rest : List Answer}

theorem outcome_tell_bind {Other : Type} (report : Option Report)
    (next : Unit → Attempt Store RequestError Other) (machine : Machine Store) :
    Attempt.outcome (tell report >>= next) machine =
      Attempt.outcome (next ()) (machine.advance machine.store (report.map .reported).toList) := by
  cases report with
  | none => simp [tell, Machine.advance]
  | some report => rfl

/-- Lines that are refused take an attempt each. -/
theorem outcome_retry_refused (attempts : Nat)
    (answers : before.answers = refused.map Answer.line ++ rest)
    (allRefused : ∀ entry ∈ refused, question.judge entry = none) :
    Attempt.outcome (retry question givenUp (refused.length + attempts)) before =
      Attempt.outcome (retry question givenUp attempts)
        ⟨before.store, rest, before.trace ++ question.refusals refused⟩ := by
  induction refused generalizing before with
  | nil =>
      rcases before with ⟨store, given, trace⟩
      simp only [List.map_nil, List.nil_append] at answers
      simp [answers]
  | cons line later ih =>
      rcases readLine_succeeds question.prompt answers with ⟨read, left⟩
      rw [List.length_cons, Nat.succ_add, retry, Attempt.outcome_bind_ok read]
      simp only [allRefused line List.mem_cons_self, outcome_tell_bind]
      rw [ih ((Machine.answers_advance ..).trans left)
        fun entry mem => allRefused entry (List.mem_cons_of_mem _ mem)]
      simp [Machine.asked, Machine.nextAnswer, answers, Question.refusals_cons]

/-- A line is accepted after lines that are refused, if there is an attempt left for it. -/
theorem outcome_retry_accepted {attempts : Nat} {result : Result} {later : List Answer}
    (answers : before.answers = (refused ++ [line]).map Answer.line ++ later)
    (few : refused.length < attempts)
    (allRefused : ∀ entry ∈ refused, question.judge entry = none)
    (fits : question.judge line = some result) :
    Attempt.outcome (retry question givenUp attempts) before =
      (.ok result,
        ⟨before.store, later, before.trace ++ (question.refusals refused ++
          question.acceptance)⟩) := by
  rcases Nat.exists_eq_add_of_lt few with ⟨others, rfl⟩
  have split : before.answers = refused.map Answer.line ++ (.line line :: later) := by
    simpa using answers
  rw [Nat.add_assoc, outcome_retry_refused _ split allRefused, retry]
  have left : Machine.answers
      ⟨before.store, .line line :: later, before.trace ++ question.refusals refused⟩ =
        .line line :: later := rfl
  rw [Attempt.outcome_bind_ok (readLine_succeeds question.prompt left).1]
  simp only [fits, Attempt.outcome_pure]
  simp [Machine.asked, Machine.nextAnswer, Question.acceptance]

theorem outcome_retry_exhausted (answers : before.answers = refused.map Answer.line ++ rest)
    (allRefused : ∀ entry ∈ refused, question.judge entry = none) :
    Attempt.outcome (retry question givenUp refused.length) before =
      (givenUp, ⟨before.store, rest, before.trace ++ question.refusals refused⟩) :=
  outcome_retry_refused 0 answers allRefused

theorem outcome_retry_stopped {attempts : Nat} {error : RequestError}
    (answers : before.answers = refused.map Answer.line ++ rest)
    (few : refused.length < attempts)
    (allRefused : ∀ entry ∈ refused, question.judge entry = none)
    (noLine : lineOf (rest.headD .endOfInput) = .error error) :
    Attempt.outcome (retry question givenUp attempts) before =
      (.error error, Machine.asked
        ⟨before.store, rest, before.trace ++ question.refusals refused⟩ question.prompt) := by
  rcases Nat.exists_eq_add_of_lt few with ⟨others, rfl⟩
  rw [Nat.add_assoc, outcome_retry_refused _ answers allRefused, retry]
  apply Attempt.outcome_bind_error
  rw [outcome_readLine]
  exact congrArg (·, _) noLine

/-- The ways in which asking a question can end. -/
inductive RetryOutcome (question : Question Result) (givenUp : Except RequestError Result)
    (attempts : Nat) (before : Machine Store) : Except RequestError Result → Machine Store → Prop
    where
  | accepted {refused : List String} {line : String} {result : Result} {later : List Answer}
      (answers : before.answers = (refused ++ [line]).map Answer.line ++ later)
      (few : refused.length < attempts)
      (allRefused : ∀ entry ∈ refused, question.judge entry = none)
      (fits : question.judge line = some result) :
      RetryOutcome question givenUp attempts before (.ok result)
        ⟨before.store, later, before.trace ++ (question.refusals refused ++ question.acceptance)⟩
  /-- As many lines are refused as there are attempts. -/
  | exhausted {refused : List String} {later : List Answer}
      (answers : before.answers = refused.map Answer.line ++ later)
      (all : refused.length = attempts)
      (allRefused : ∀ entry ∈ refused, question.judge entry = none) :
      RetryOutcome question givenUp attempts before givenUp
        ⟨before.store, later, before.trace ++ question.refusals refused⟩
  /-- There is no line where one is needed. -/
  | stopped {refused : List String} {rest : List Answer} {error : RequestError}
      (answers : before.answers = refused.map Answer.line ++ rest)
      (few : refused.length < attempts)
      (allRefused : ∀ entry ∈ refused, question.judge entry = none)
      (noLine : lineOf (rest.headD .endOfInput) = .error error) :
      RetryOutcome question givenUp attempts before (.error error)
        (Machine.asked ⟨before.store, rest, before.trace ++ question.refusals refused⟩
          question.prompt)

/-- The answers start with lines that are refused, up to the number of attempts. If these lines are
fewer, the next answer is a line that is accepted or no line at all. -/
theorem exists_refused (question : Question Result) (attempts : Nat) (answers : List Answer) :
    ∃ (refused : List String) (rest : List Answer),
      answers = refused.map Answer.line ++ rest ∧
        (∀ entry ∈ refused, question.judge entry = none) ∧
        (refused.length = attempts ∨ refused.length < attempts ∧
          ((∃ line later result, rest = .line line :: later ∧ question.judge line = some result) ∨
            ∃ error, lineOf (rest.headD .endOfInput) = .error error)) := by
  induction attempts generalizing answers with
  | zero => exact ⟨[], answers, rfl, by simp, .inl rfl⟩
  | succ attempts ih =>
      cases entered : lineOf (answers.headD .endOfInput) with
      | error error =>
          exact ⟨[], answers, rfl, by simp, .inr ⟨Nat.succ_pos _, .inr ⟨error, entered⟩⟩⟩
      | ok line =>
          rcases exists_line_of_lineOf entered with ⟨later, rfl⟩
          cases judged : question.judge line with
          | some result =>
              exact ⟨[], _, rfl, by simp,
                .inr ⟨Nat.succ_pos _, .inl ⟨line, later, result, rfl, judged⟩⟩⟩
          | none =>
              rcases ih later with ⟨refused, rest, rfl, allRefused, ending⟩
              refine ⟨line :: refused, rest, rfl, ?_, ?_⟩
              · simpa [judged] using allRefused
              · simpa using ending

theorem retryOutcome (question : Question Result) (givenUp : Except RequestError Result)
    (attempts : Nat) (before : Machine Store) :
    RetryOutcome question givenUp attempts before
      (Attempt.outcome (retry question givenUp attempts) before).1
      (Attempt.outcome (retry question givenUp attempts) before).2 := by
  rcases exists_refused question attempts before.answers with
    ⟨refused, rest, answers, allRefused, ending⟩
  rcases ending with rfl | ⟨few, ⟨line, later, result, rfl, fits⟩ | ⟨error, noLine⟩⟩
  · rw [outcome_retry_exhausted answers allRefused]
    exact .exhausted answers rfl allRefused
  · have entered : before.answers = (refused ++ [line]).map Answer.line ++ later := by
      simpa using answers
    rw [outcome_retry_accepted entered few allRefused fits]
    exact .accepted entered few allRefused fits
  · rw [outcome_retry_stopped answers few allRefused noLine]
    exact .stopped answers few allRefused noLine

/-- If one of the first lines is accepted, and these lines are no more than the attempts, then
asking is successful. -/
theorem accepts_of_mem {attempts : Nat} {entered : List String} {later : List Answer}
    (answers : before.answers = entered.map Answer.line ++ later)
    (enough : entered.length ≤ attempts)
    (accepted : ∃ entry ∈ entered, (question.judge entry).isSome) :
    ∃ result, (∃ entry ∈ entered, question.judge entry = some result) ∧
      (Attempt.outcome (retry question givenUp attempts) before).1 = .ok result := by
  rcases Option.isSome_iff_exists.mp (List.findSome?_isSome_iff.mpr accepted) with ⟨result, first⟩
  rcases List.findSome?_eq_some_iff.mp first with ⟨refused, line, rest, rfl, fits, allRefused⟩
  have split : before.answers =
      (refused ++ [line]).map Answer.line ++ (rest.map Answer.line ++ later) := by
    simpa using answers
  have few : refused.length < attempts := by
    simp only [List.length_append, List.length_cons] at enough
    omega
  refine ⟨result, ⟨line, by simp, fits⟩, ?_⟩
  rw [outcome_retry_accepted split few allRefused fits]

/-- A line that was accepted came after lines that were refused. -/
theorem accepted_of_retry {attempts : Nat} {result : Result} {after : Machine Store}
    (ran : Attempt.outcome (retry question givenUp attempts) before = (.ok result, after))
    (notGivenUp : givenUp ≠ .ok result) :
    ∃ refused line, before.answers = (refused ++ [line]).map Answer.line ++ after.answers ∧
      refused.length < attempts ∧ (∀ entry ∈ refused, question.judge entry = none) ∧
      question.judge line = some result ∧
      after = ⟨before.store, after.answers,
        before.trace ++ (question.refusals refused ++ question.acceptance)⟩ := by
  have ending := retryOutcome question givenUp attempts before
  rw [ran] at ending
  generalize same : Except.ok result = ended at ending
  cases ending with
  | accepted answers few allRefused fits =>
      cases same
      exact ⟨_, _, answers, few, allRefused, fits, rfl⟩
  | exhausted => exact absurd same.symm notGivenUp
  | stopped => cases same

end Outcome

end Dialogue

end OwnerKeys
