import OwnerKeys.Proofs.Machine.Frame

/-!
# Output that may be refused

A computation that shows something goes through its events one by one, and stops at the first text
that the output does not take. So whatever the output is like, what has happened in the end is all
that was to be shown or a front part of it, up to a text that was refused.
-/

namespace OwnerKeys

variable {Store Result Other : Type} {output : Output}

/-- The output takes every text among some events, which come after others. -/
def Output.Takes (output : Output) (earlier events : List Event) : Prop :=
  ∀ front text back, events = front ++ .printed text :: back →
    output.refusal? (earlier ++ front) text = none

theorem Output.takes_nil (output : Output) (earlier : List Event) : output.Takes earlier [] := by
  intro front text back split
  simp at split

theorem Output.takes_append {earlier first second : List Event}
    (takesFirst : output.Takes earlier first)
    (takesSecond : output.Takes (earlier ++ first) second) :
    output.Takes earlier (first ++ second) := by
  intro front text back split
  -- The text is among the first events, or it is among the second ones.
  rcases List.append_eq_append_iff.mp split with ⟨between, rfl, rest⟩ | ⟨between, early, rest⟩
  · rw [← List.append_assoc]
    exact takesSecond between text back rest
  · cases between with
    | nil =>
        rw [List.append_nil] at early
        subst early
        rw [List.nil_append] at rest
        simpa using takesSecond [] text back rest.symm
    | cons event later =>
        rw [List.cons_append, List.cons.injEq] at rest
        rcases rest with ⟨rfl, _⟩
        exact takesFirst front text later early

/-- The ways in which showing events can end. -/
inductive ShowOutcome (output : Output) (result : Result) (events : List Event)
    (before : Machine Store) : Except String Result × Machine Store → Prop where
  /-- All of them have happened. -/
  | shown (taken : output.Takes before.trace events) :
      ShowOutcome output result events before (.ok result, before.advance before.store events)
  /-- A text was refused, and what comes before it has happened. -/
  | refused {front back : List Event} {text reason : String}
      (split : events = front ++ .printed text :: back) (taken : output.Takes before.trace front)
      (refused : output.refusal? (before.trace ++ front) text = some reason) :
      ShowOutcome output result events before (.error reason, before.advance before.store front)

/-- An attempt shows events, has a result, and does nothing else. -/
def Attempt.Shows (output : Output) (attempt : Attempt Store String Result) (result : Result)
    (events : List Event) : Prop :=
  ∀ machine, ShowOutcome output result events machine (attempt.outcome machine)

namespace Attempt

variable {attempt : Attempt Store String Result} {result : Result} {events : List Event}

theorem shows_pure (result : Result) :
    Shows output (pure result : Attempt Store String Result) result [] := by
  intro machine
  have same : machine.advance machine.store [] = machine := by simp [Machine.advance]
  have shown : ShowOutcome output result [] machine
      (.ok result, machine.advance machine.store []) :=
    .shown (output.takes_nil _)
  rwa [same] at shown

theorem shows_print (text : String) :
    Shows output (print output text : Attempt Store String Unit) () [.printed text] := by
  intro machine
  unfold print
  rw [outcome_get_bind]
  cases refuses : output.refusal? machine.trace text with
  | some reason =>
      have same : machine.advance machine.store [] = machine := by simp [Machine.advance]
      have refused : ShowOutcome output () [.printed text] machine
          (.error reason, machine.advance machine.store []) :=
        .refused (List.nil_append _).symm (output.takes_nil _) (by simpa using refuses)
      rwa [same] at refused
  | none =>
      refine .shown fun front other back split => ?_
      rcases List.cons_eq_append_iff.mp split with ⟨rfl, isText⟩ | ⟨later, rfl, rest⟩
      · cases isText
        simpa using refuses
      · simp at rest

/-- What an action lets happen is shown, unless it is printed. -/
theorem shows_perform {action : Action Store Result}
    (ran : ∀ machine, action.outcome machine = (result, machine.advance machine.store events))
    (silent : ∀ text, .printed text ∉ events) :
    Shows output (perform action : Attempt Store String Result) result events := by
  intro machine
  rw [outcome_perform, ran machine]
  refine .shown fun front text back split => ?_
  refine absurd ?_ (silent text)
  rw [split]
  exact List.mem_append_right _ List.mem_cons_self

/-- What is shown in a sequence is shown one after the other. -/
theorem Shows.bind {next : Result → Attempt Store String Other} {final : Other}
    {later : List Event} (first : attempt.Shows output result events)
    (second : (next result).Shows output final later) :
    (attempt >>= next).Shows output final (events ++ later) := by
  intro machine
  have firstEnds := first machine
  rcases ran : attempt.outcome machine with ⟨reason | given, middle⟩
  · rw [ran] at firstEnds
    rw [outcome_bind_error ran]
    cases firstEnds with
    | @refused front back text _ split taken refused =>
        have splitAll : events ++ later = front ++ .printed text :: (back ++ later) := by
          rw [split, List.append_assoc, List.cons_append]
        exact .refused splitAll taken refused
  · rw [ran] at firstEnds
    rw [outcome_bind_ok ran]
    cases firstEnds with
    | shown taken =>
        have secondEnds := second (machine.advance machine.store events)
        generalize (next result).outcome (machine.advance machine.store events) = ending
          at secondEnds ⊢
        cases secondEnds with
        | shown takenToo =>
            rw [Machine.advance_advance]
            exact .shown (Output.takes_append taken takenToo)
        | refused split takenToo refused =>
            rw [Machine.advance_advance, split]
            refine .refused (List.append_assoc _ _ _).symm (Output.takes_append taken takenToo) ?_
            rwa [← List.append_assoc]

/-- Showing something does not change the store. -/
theorem Shows.quiet (shows : attempt.Shows output result events)
    (unchanging : ∀ event ∈ events, ¬event.IsChange) : attempt.Keeps Machine.Quiet := by
  intro machine
  have ending := shows machine
  generalize attempt.outcome machine = ran at ending ⊢
  cases ending with
  | shown _ => exact .advance machine unchanging
  | refused split _ _ =>
      refine .advance machine fun event mem => unchanging event ?_
      rw [split]
      exact List.mem_append_left _ mem

end Attempt

end OwnerKeys
