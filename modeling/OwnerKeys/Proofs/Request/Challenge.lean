import OwnerKeys.Proofs.Request.Binding
import OwnerKeys.Proofs.Request.Dialogue

/-!
# Who passes a challenge

A challenge is passed with a line that reproduces the stored tag, and that has to be one of the
first three. If the tag was made from a line, then that line reproduces it. As long as digests do
not collide, the lines that reproduce it are those of at most 16 characters which start with the
same 16 units: a line that is too short has too few units to start like an acceptable one, and one
that is too long is refused.
-/

namespace OwnerKeys

namespace Password

/-- A line that starts with the units of an acceptable line is not too short. -/
theorem minLength_le_of_take_eq {line entry : String} (acceptable : Acceptable line)
    (same : (Utf16.ofString entry).take maxLength = (Utf16.ofString line).take maxLength) :
    minLength ≤ entry.toList.length := by
  by_cases full : (Utf16.ofString entry).length < maxLength
  · -- All units of the entry are compared, so the two lines are the same.
    have lengths := congrArg List.length same
    rw [List.length_take, List.length_take] at lengths
    rw [List.take_of_length_le (by omega), List.take_of_length_le (by omega)] at same
    rw [Utf16.ofString_inj same]
    exact acceptable.1
  · have units := Utf16.length_ofString_le entry
    simp only [minLength, maxLength] at full ⊢
    omega

end Password

namespace AuthTag

theorem derive_eq_derive_iff {list : Option Bytes} {guess password : Password}
    (noCollision : Sha256.digest (preimage list guess) = Sha256.digest (preimage list password) →
      preimage list guess = preimage list password) :
    derive list guess = derive list password ↔ guess = password := by
  constructor
  · intro sameTag
    have sameBytes := noCollision (AuthTag.mk.inj sameTag)
    have sameUnits := List.append_cancel_left sameBytes
    exact Password.eq_iff_units.mpr (LittleEndian.flatMap_ofUInt16_inj sameUnits)
  · rintro rfl
    rfl

end AuthTag

namespace Dialogue

variable {Store : Type} {list : Option Bytes} {line entry : String} {password : Password}

/-- Whether an answer is a line that has an unacceptable number of characters. -/
def isBadLength : Answer → Bool
  | .line text => ¬Password.Acceptable text
  | .endOfInput | .failure _ => false

/-- Without a collision, the lines that reproduce the tag of a line are those that start like it,
and that are not too long. -/
theorem reproduces_derive_iff (found : Password.ofLine? line = some password)
    (noCollision : ∀ guess, Password.ofLine? entry = some guess →
      Sha256.digest (AuthTag.preimage list guess) =
          Sha256.digest (AuthTag.preimage list password) →
        AuthTag.preimage list guess = AuthTag.preimage list password) :
    Reproduces (AuthTag.derive list password) list entry ↔
      entry.toList.length ≤ 16 ∧
        (Utf16.ofString entry).take 16 = (Utf16.ofString line).take 16 := by
  constructor
  · rintro ⟨guess, guessed, derived⟩
    obtain rfl := (AuthTag.derive_eq_derive_iff (noCollision guess guessed)).mp derived
    refine ⟨(Password.acceptable_of_ofLine guessed).2, ?_⟩
    exact (Password.units_of_ofLine guessed).symm.trans (Password.units_of_ofLine found)
  · rintro ⟨short, same⟩
    have long := Password.minLength_le_of_take_eq (Password.acceptable_of_ofLine found) same
    rcases Option.ne_none_iff_exists'.mp
      (mt Password.ofLine_eq_none_iff.mp (not_not_intro ⟨long, short⟩)) with ⟨guess, guessed⟩
    refine ⟨guess, guessed, ?_⟩
    rw [Password.eq_iff_units.mpr (((Password.units_of_ofLine guessed).trans same).trans
      (Password.units_of_ofLine found).symm)]

/-! ## What the operator is told -/

variable {stored : AuthTag} {before after : Machine Store} {result : Except RequestError Bool}

theorem count_invalid_refusals (lines : List String) :
    ((Question.oldPassword stored list).refusals lines).count (.reported .invalid) =
      (lines.map Answer.line).countP isBadLength := by
  induction lines with
  | nil => rfl
  | cons line later ih =>
      rw [Question.refusals_cons, List.count_append, ih, List.map_cons, List.countP_cons]
      by_cases acceptable : Password.Acceptable line
      · simp [Question.oldPassword, isBadLength, acceptable]
      · simp [Question.oldPassword, isBadLength, acceptable, Nat.add_comm]

/-- Whatever the end of a challenge, the operator has been told once for each line that has an
unacceptable number of characters that it is invalid. -/
theorem count_invalid_of_ending {attempts : Nat}
    (ending : RetryOutcome (.oldPassword stored list) (.ok false) attempts before result after) :
    ∃ taken events, before.answers = taken ++ after.answers ∧
      after.trace = before.trace ++ events ∧
      events.count (.reported .invalid) = taken.countP isBadLength := by
  cases ending with
  | @accepted refused line result later answers few allRefused fits =>
      have acceptable : Password.Acceptable line := by
        rcases Question.judge_oldPassword_eq_some_iff.mp fits with ⟨-, password, found, -⟩
        exact Password.acceptable_of_ofLine found
      refine ⟨_, _, answers, rfl, ?_⟩
      rw [List.count_append, count_invalid_refusals, List.map_append, List.countP_append]
      simp [Question.acceptance, isBadLength, acceptable]
  | exhausted answers all allRefused =>
      exact ⟨_, _, answers, rfl, count_invalid_refusals _⟩
  | @stopped refused rest error answers few allRefused noLine =>
      refine ⟨refused.map .line ++ rest.take 1, _, ?_, List.append_assoc .., ?_⟩
      · rw [answers, Machine.answers_asked, List.append_assoc, ← List.drop_one,
          List.take_append_drop]
      · rw [List.count_append, count_invalid_refusals, List.countP_append]
        rcases rest with - | ⟨answer, later⟩
        · simp [Machine.nextAnswer]
        · cases answer with
          | line text => cases noLine
          | endOfInput => simp [Machine.nextAnswer, isBadLength]
          | failure message => simp [Machine.nextAnswer, isBadLength]

/-! ## The challenge -/

/-- A challenge for a stored tag is passed if one of the first lines reproduces the tag, and only
then. -/
theorem challenge_passes_iff :
    (Attempt.outcome (challenge stored list) before).1 = .ok true ↔
      ∃ (entered : List String) (later : List Answer),
        before.answers = entered.map Answer.line ++ later ∧ entered.length ≤ maxAttempts ∧
        ∃ entry ∈ entered, Reproduces stored list entry := by
  constructor
  · intro passed
    rcases ran : Attempt.outcome (challenge stored list) before with ⟨result, after⟩
    rw [ran] at passed
    subst passed
    rcases answers_of_challengeWithin ran with
      ⟨refused, line, password, answers, few, found, derived⟩
    exact ⟨_, _, answers, (List.length_append ..).trans_le few, line, by simp, password, found,
      derived⟩
  · rintro ⟨entered, later, answers, enough, entry, mem, reproduced⟩
    have fits := Question.judge_oldPassword_eq_some_iff.mpr ⟨rfl, reproduced⟩
    have accepted := Option.isSome_iff_exists.mpr ⟨true, fits⟩
    rw [challenge, challengeWithin_eq_retry]
    rcases accepts_of_mem answers enough ⟨entry, mem, accepted⟩ with
      ⟨passed, ⟨line, -, judged⟩, outcome⟩
    obtain rfl := (Question.judge_oldPassword_eq_some_iff.mp judged).1
    exact outcome

/-- How a challenge goes that asks for the password of a line. It is passed if one of the first
three answers, and none before it is anything but a line, reproduces the tag; it takes the answers
up to that one. Otherwise it fails with the third line, or it stops where there is no line. The
operator is told once for each line that has an unacceptable number of characters that it is
invalid. The line itself reproduces the tag, and without a collision the others that do so are those
of at most 16 characters that start with the same 16 units. -/
theorem challenge_verifies (found : Password.ofLine? line = some password) (list : Option Bytes)
    (before : Machine Store) :
    let stored := AuthTag.derive list password
    let ran := Attempt.outcome (challenge stored list) before
    (ran.1 = .ok true ↔ ∃ (entered : List String) (later : List Answer),
      before.answers = entered.map Answer.line ++ later ∧ entered.length ≤ 3 ∧
      ∃ entry ∈ entered, Reproduces stored list entry) ∧
    RetryOutcome (.oldPassword stored list) (.ok false) 3 before ran.1 ran.2 ∧
    (∃ taken events, before.answers = taken ++ ran.2.answers ∧
      ran.2.trace = before.trace ++ events ∧
      events.count (.reported .invalid) = taken.countP isBadLength) ∧
    Reproduces stored list line ∧
    ∀ entry, (∀ guess, Password.ofLine? entry = some guess →
        Sha256.digest (AuthTag.preimage list guess) =
            Sha256.digest (AuthTag.preimage list password) →
          AuthTag.preimage list guess = AuthTag.preimage list password) →
      (Reproduces stored list entry ↔ entry.toList.length ≤ 16 ∧
        (Utf16.ofString entry).take 16 = (Utf16.ofString line).take 16) := by
  intro stored ran
  have ending : RetryOutcome (.oldPassword stored list) (.ok false) 3 before ran.1 ran.2 := by
    simp only [ran, challenge, challengeWithin_eq_retry]
    exact retryOutcome _ _ _ _
  exact ⟨challenge_passes_iff, ending, count_invalid_of_ending ending, ⟨password, found, rfl⟩,
    fun entry noCollision => reproduces_derive_iff found noCollision⟩

/-- A line that is too short and a line that starts in another way use up two attempts; then the
line itself passes the challenge. -/
theorem challenge_passed_at_last :
    ∃ password, Password.ofLine? "password" = some password ∧
      ¬Reproduces (AuthTag.derive none password) none "Password" ∧
      (Attempt.outcome (challenge (AuthTag.derive none password) none) (⟨(),
        [.line "short", .line "Password", .line "password", .endOfInput], []⟩ : Machine Unit)).1 =
          .ok true := by
  have found : Password.ofLine? "password" =
      some ⟨[112, 97, 115, 115, 119, 111, 114, 100], by decide, by decide⟩ := by decide
  have capital : Password.ofLine? "Password" =
      some ⟨[80, 97, 115, 115, 119, 111, 114, 100], by decide, by decide⟩ := by decide
  have verifies := challenge_verifies found none
    (⟨(), [.line "short", .line "Password", .line "password", .endOfInput], []⟩ : Machine Unit)
  refine ⟨_, found, ?_, ?_⟩
  · have different := verifies.2.2.2.2 "Password" fun guess guessed => by
      obtain rfl := Option.some.inj (capital.symm.trans guessed)
      decide +kernel
    exact mt different.mp (by decide)
  · exact verifies.1.mpr ⟨["short", "Password", "password"], [.endOfInput], rfl, by decide,
      "password", by decide, verifies.2.2.2.1⟩

/-- That a line starts like an acceptable one is not enough: with one character more than sixteen
it is refused before anything is hashed. -/
theorem not_reproduces_iff_same_start :
    ¬∀ (list : Option Bytes) (line entry : String) (password : Password),
      Password.ofLine? line = some password →
      (∀ guess, Password.ofLine? entry = some guess →
        Sha256.digest (AuthTag.preimage list guess) =
            Sha256.digest (AuthTag.preimage list password) →
          AuthTag.preimage list guess = AuthTag.preimage list password) →
      (Reproduces (AuthTag.derive list password) list entry ↔
        (Utf16.ofString entry).take 16 = (Utf16.ofString line).take 16) := by
  intro sameStart
  have accepted : Password.ofLine? "passwordpassword" ≠ none :=
    mt Password.ofLine_eq_none_iff.mp (not_not_intro (by decide))
  have refused : Password.ofLine? "passwordpasswordX" = none :=
    Password.ofLine_eq_none_iff.mpr (by decide)
  rcases Option.ne_none_iff_exists'.mp accepted with ⟨password, found⟩
  have reproduces := (sameStart none "passwordpassword" "passwordpasswordX" password found
    fun guess guessed => nomatch refused.symm.trans guessed).mpr (by decide)
  rcases reproduces with ⟨guess, guessed, -⟩
  exact nomatch refused.symm.trans guessed

end Dialogue

end OwnerKeys
