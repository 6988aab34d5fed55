import OwnerKeys.Proofs.Request.Retrying

/-!
# What the operator has entered

A dialogue leaves the store alone. If it succeeds, the answers that it has taken tell the whole
story: some lines that were refused, not too many of them, and the lines that were wanted.
-/

namespace OwnerKeys.Dialogue

variable {Store : Type} {machine after : Machine Store}

/-- The operator has entered a new password and entered it once more. Before either of the two lines
there may be others, fewer than the attempts that the operator has. -/
def Confirmed (given : List Answer) (password : Password) : Prop :=
  ∃ refused line others,
    given = (refused ++ [line] ++ (others ++ [line])).map Answer.line ∧
      refused.length < maxAttempts ∧ (∀ entry ∈ refused, Password.ofLine? entry = none) ∧
      others.length < maxAttempts ∧ (∀ entry ∈ others, entry ≠ line) ∧
      Password.ofLine? line = some password

theorem Confirmed.exists_line {given : List Answer} {password : Password}
    (confirmed : Confirmed given password) : ∃ line, Password.ofLine? line = some password := by
  rcases confirmed with ⟨_, line, _, _, _, _, _, _, found⟩
  exact ⟨line, found⟩

/-- A line gives a password under which a list has the stored tag. -/
def Reproduces (stored : AuthTag) (list : Option Bytes) (line : String) : Prop :=
  ∃ password, Password.ofLine? line = some password ∧ AuthTag.derive list password = stored

/-- The operator has entered a line that reproduces the stored tag. Before it there may be lines
that do not, fewer than the attempts that the operator has. -/
def Answered (given : List Answer) (stored : AuthTag) (list : Option Bytes) : Prop :=
  ∃ refused line, given = (refused ++ [line]).map Answer.line ∧ refused.length < maxAttempts ∧
    (∀ entry ∈ refused, ¬Reproduces stored list entry) ∧ Reproduces stored list line

/-! ## Which lines are accepted -/

namespace Question

theorem judge_newPassword_eq_some_iff {line : String} {entry : String × Password} :
    newPassword.judge line = some entry ↔
      entry.1 = line ∧ Password.ofLine? line = some entry.2 := by
  rcases entry with ⟨entered, password⟩
  simp only [newPassword, Option.map_eq_some_iff, Prod.mk.injEq]
  constructor
  · rintro ⟨_, found, rfl, rfl⟩
    exact ⟨rfl, found⟩
  · rintro ⟨rfl, found⟩
    exact ⟨password, found, rfl, rfl⟩

theorem judge_newPassword_eq_none_iff {line : String} :
    newPassword.judge line = none ↔ Password.ofLine? line = none := by
  simp [newPassword]

theorem judge_confirmation_eq_some_iff {line again : String} :
    (confirmation line).judge again = some () ↔ again = line := by
  simp [confirmation]

theorem judge_confirmation_eq_none_iff {line again : String} :
    (confirmation line).judge again = none ↔ again ≠ line := by
  simp [confirmation]

variable {stored : AuthTag} {list : Option Bytes} {line : String}

theorem judge_oldPassword_eq_some_iff {passed : Bool} :
    (oldPassword stored list).judge line = some passed ↔
      passed = true ∧ Reproduces stored list line := by
  simp only [oldPassword, Option.bind_eq_some_iff, Option.ite_none_right_eq_some, Reproduces]
  constructor
  · rintro ⟨password, found, derived, same⟩
    exact ⟨(Option.some.inj same).symm, password, found, derived⟩
  · rintro ⟨rfl, password, found, derived⟩
    exact ⟨password, found, derived, rfl⟩

theorem judge_oldPassword_eq_none_iff :
    (oldPassword stored list).judge line = none ↔ ¬Reproduces stored list line := by
  rw [Option.eq_none_iff_forall_ne_some]
  simp [judge_oldPassword_eq_some_iff]

end Question

/-! ## The store is left alone -/

/-- Asking for a new password leaves the store alone. -/
theorem keeps_newPassword :
    (newPassword : Attempt Store RequestError Password).Keeps (Machine.Adds Event.IsDialogue) := by
  unfold newPassword
  rw [firstEntry_eq_retry]
  refine (keeps_retry _ _ _).bind fun ⟨line, password⟩ => ?_
  dsimp only
  rw [confirm_eq_retry]
  exact (keeps_retry _ _ _).bind fun _ => Attempt.keeps_pure _

/-- Asking for the password of a pending request leaves the store alone. -/
theorem keeps_challenge (stored : AuthTag) (list : Option Bytes) :
    (challenge stored list : Attempt Store RequestError Bool).Keeps
      (Machine.Adds Event.IsDialogue) := by
  rw [challenge, challengeWithin_eq_retry]
  exact keeps_retry _ _ _

theorem quiet_newPassword {result : Except RequestError Password}
    (ran : Attempt.outcome newPassword machine = (result, after)) : Machine.Quiet machine after :=
  (keeps_newPassword.of_outcome ran).mono fun _ => Event.IsDialogue.not_isChange

theorem quiet_challenge {stored : AuthTag} {list : Option Bytes}
    {result : Except RequestError Bool}
    (ran : Attempt.outcome (challenge stored list) machine = (result, after)) :
    Machine.Quiet machine after :=
  ((keeps_challenge stored list).of_outcome ran).mono fun _ => Event.IsDialogue.not_isChange

/-! ## What success tells about the answers -/

/-- What happens when a new password is entered and confirmed, after a number of lines of
unacceptable length and a number of lines that are different. -/
def agreement (refused others : Nat) : List Event :=
  (List.replicate refused [.prompted .newPassword, .answered, .reported .badLength]).flatten ++
    [.prompted .newPassword, .answered] ++
    (List.replicate others [.prompted .confirmation, .answered, .reported .mismatch]).flatten ++
    [.prompted .confirmation, .answered]

theorem agreement_eq (refused : List String) (line : String) (others : List String) :
    agreement refused.length others.length =
      Question.newPassword.refusals refused ++ Question.newPassword.acceptance ++
        (Question.confirmation line).refusals others ++
        (Question.confirmation line).acceptance := by
  simp [agreement, Question.refusals, Question.acceptance, Question.newPassword,
    Question.confirmation, List.flatMap_def, List.map_const']

/-- A new password was entered after lines of unacceptable length, and confirmed after lines that
were different. -/
theorem entries_of_newPassword {password : Password}
    (ran : Attempt.outcome newPassword machine = (.ok password, after)) :
    ∃ refused line others,
      machine.answers = (refused ++ [line] ++ (others ++ [line])).map Answer.line ++ after.answers ∧
      refused.length < maxAttempts ∧ (∀ entry ∈ refused, Password.ofLine? entry = none) ∧
      others.length < maxAttempts ∧ (∀ entry ∈ others, entry ≠ line) ∧
      Password.ofLine? line = some password ∧
      after = ⟨machine.store, after.answers,
        machine.trace ++ agreement refused.length others.length⟩ := by
  rw [newPassword, firstEntry_eq_retry] at ran
  rcases first : Attempt.outcome (retry .newPassword (.error .userAborted) maxAttempts) machine
    with ⟨error | ⟨entered, accepted⟩, asked⟩
  · rw [Attempt.outcome_bind_error first] at ran
    cases ran
  · rw [Attempt.outcome_bind_ok first] at ran
    simp only [confirm_eq_retry] at ran
    rcases second : Attempt.outcome
      (retry (.confirmation entered) (.error .userAborted) maxAttempts) asked
      with ⟨error | _, confirmed⟩
    · rw [Attempt.outcome_bind_error second] at ran
      cases ran
    · rw [Attempt.outcome_bind_ok second, Attempt.outcome_pure] at ran
      cases ran
      rcases accepted_of_retry first nofun with
        ⟨refused, line, firstAnswers, fewRefused, allRefused, fits, asked_eq⟩
      rcases Question.judge_newPassword_eq_some_iff.mp fits with ⟨rfl, found⟩
      rcases accepted_of_retry second nofun with
        ⟨others, again, secondAnswers, fewOthers, allOther, same, after_eq⟩
      cases Question.judge_confirmation_eq_some_iff.mp same
      simp only [Question.judge_newPassword_eq_none_iff] at allRefused
      simp only [Question.judge_confirmation_eq_none_iff] at allOther
      refine ⟨refused, _, others, ?_, fewRefused, allRefused, fewOthers, allOther, found, ?_⟩
      · rw [firstAnswers, secondAnswers, ← List.append_assoc, ← List.map_append]
      · rw [after_eq, asked_eq, agreement_eq _ entered]
        simp

/-- A new password is one that the operator has confirmed. -/
theorem confirmed_of_newPassword {password : Password}
    (ran : Attempt.outcome newPassword machine = (.ok password, after)) :
    ∃ given, machine.answers = given ++ after.answers ∧ Confirmed given password := by
  rcases entries_of_newPassword ran with
    ⟨refused, line, others, answers, fewRefused, allRefused, fewOthers, allOther, found, _⟩
  exact ⟨_, answers, refused, line, others, rfl, fewRefused, allRefused, fewOthers, allOther, found⟩

/-- A challenge is met by a line that gives a password which reproduces the tag. Lines before it,
fewer than the attempts, were not enough. -/
theorem answers_of_challengeWithin {stored : AuthTag} {list : Option Bytes} {attempts : Nat}
    (ran : Attempt.outcome (challengeWithin stored list attempts) machine = (.ok true, after)) :
    ∃ refused line password,
      machine.answers = (refused ++ [line]).map Answer.line ++ after.answers ∧
        refused.length < attempts ∧ Password.ofLine? line = some password ∧
        AuthTag.derive list password = stored := by
  rw [challengeWithin_eq_retry] at ran
  rcases accepted_of_retry ran (by simp) with ⟨refused, line, answers, few, _, fits, _⟩
  rcases Question.judge_oldPassword_eq_some_iff.mp fits with ⟨-, password, found, derived⟩
  exact ⟨refused, line, password, answers, few, found, derived⟩

/-! ## Answers that lead to success

What the answers of a successful dialogue look like is also enough for success, and the dialogue
takes these answers and no more. -/

/-- Whoever enters and confirms a new password gets it. -/
theorem outcome_newPassword {refused others : List String} {line : String} {password : Password}
    {later : List Answer}
    (answers : machine.answers =
      (refused ++ [line] ++ (others ++ [line])).map Answer.line ++ later)
    (fewRefused : refused.length < maxAttempts)
    (allRefused : ∀ entry ∈ refused, Password.ofLine? entry = none)
    (fewOthers : others.length < maxAttempts) (allOther : ∀ entry ∈ others, entry ≠ line)
    (found : Password.ofLine? line = some password) :
    Attempt.outcome newPassword machine = (.ok password,
      ⟨machine.store, later, machine.trace ++ agreement refused.length others.length⟩) := by
  rw [List.map_append, List.append_assoc] at answers
  have entered : Question.newPassword.judge line = some (line, password) :=
    Question.judge_newPassword_eq_some_iff.mpr ⟨rfl, found⟩
  have confirmed : (Question.confirmation line).judge line = some () :=
    Question.judge_confirmation_eq_some_iff.mpr rfl
  simp only [← Question.judge_newPassword_eq_none_iff] at allRefused
  simp only [← Question.judge_confirmation_eq_none_iff] at allOther
  have second (asked : Machine Store)
      (left : asked.answers = (others ++ [line]).map Answer.line ++ later) :
      Attempt.outcome (confirm line maxAttempts) asked =
        (.ok (), ⟨asked.store, later, asked.trace ++
          ((Question.confirmation line).refusals others ++
            (Question.confirmation line).acceptance)⟩) := by
    rw [confirm_eq_retry]
    exact outcome_retry_accepted left fewOthers allOther confirmed
  rw [newPassword, firstEntry_eq_retry,
    Attempt.outcome_bind_ok (outcome_retry_accepted answers fewRefused allRefused entered)]
  dsimp only
  rw [Attempt.outcome_bind_ok (second ⟨_, _, _⟩ rfl), Attempt.outcome_pure, agreement_eq _ line]
  simp

theorem newPassword_succeeds {given later : List Answer} {password : Password}
    (confirmed : Confirmed given password) (answers : machine.answers = given ++ later) :
    ∃ asked, Attempt.outcome newPassword machine = (.ok password, asked) ∧
      asked.answers = later := by
  rcases confirmed with ⟨refused, line, others, rfl, fewRefused, allRefused, fewOthers, allOther,
    found⟩
  exact ⟨_, outcome_newPassword answers fewRefused allRefused fewOthers allOther found, rfl⟩

/-- Whoever answers a challenge passes it. -/
theorem challenge_succeeds {given later : List Answer} {stored : AuthTag} {list : Option Bytes}
    (answered : Answered given stored list) (answers : machine.answers = given ++ later) :
    ∃ asked, Attempt.outcome (challenge stored list) machine = (.ok true, asked) ∧
      asked.answers = later := by
  rcases answered with ⟨refused, line, rfl, few, allRefused, reproduced⟩
  have fits : (Question.oldPassword stored list).judge line = some true :=
    Question.judge_oldPassword_eq_some_iff.mpr ⟨rfl, reproduced⟩
  simp only [← Question.judge_oldPassword_eq_none_iff] at allRefused
  rw [challenge, challengeWithin_eq_retry]
  exact ⟨_, outcome_retry_accepted answers few allRefused fits, rfl⟩

end OwnerKeys.Dialogue
