import Mathlib.Order.Defs.Unbundled
import OwnerKeys.Proofs.Machine.Outcome

/-!
# What computations leave alone

Most of what the program does leaves the store alone: looking variables up, and talking with the
operator. A computation keeps a relation if it always leaves a machine behind that is related to the
one from before. A relation that is a preorder is kept by a sequence if it is kept by the parts, so
for a whole computation it is enough to look at its calls and prompts.
-/

namespace OwnerKeys

variable {Store Error Result Other : Type}

namespace Event

/-- Whether an event is a call that may change the store. -/
def IsChange : Event → Prop
  | called .write _ | called .delete _ => True
  | _ => False

/-- Whether an event belongs to looking something up: a read, or a notice about what was found. -/
def IsLook : Event → Prop
  | called .read _ | noted _ => True
  | _ => False

/-- Whether an event belongs to a dialogue with the operator. -/
def IsDialogue : Event → Prop
  | prompted _ | answered | reported _ => True
  | _ => False

/-- Whether an event is a prompt. -/
def IsPrompt (event : Event) : Prop :=
  ∃ prompt, event = prompted prompt

/-- Nothing that could change the store is tried before a prompt. -/
def PromptsFirst (events : List Event) : Prop :=
  events.Pairwise fun earlier later => later.IsPrompt → ¬earlier.IsChange

theorem IsLook.not_isChange {event : Event} (look : event.IsLook) : ¬event.IsChange := by
  cases event with
  | called operation var => cases operation <;> simp_all [IsLook, IsChange]
  | _ => simp [IsChange]

theorem IsDialogue.not_isChange {event : Event} (dialogue : event.IsDialogue) :
    ¬event.IsChange := by
  cases event with
  | called operation var => simp [IsDialogue] at dialogue
  | _ => simp [IsChange]

/-- Events that change nothing may be followed by any events that are not prompts. -/
theorem promptsFirst_append {earlier later : List Event}
    (quiet : ∀ event ∈ earlier, ¬event.IsChange) (silent : ∀ event ∈ later, ¬event.IsPrompt) :
    PromptsFirst (earlier ++ later) := by
  refine List.pairwise_append.mpr ⟨?_, ?_, ?_⟩
  · exact List.pairwise_of_forall_mem_list fun event mem _ _ _ => quiet event mem
  · exact List.pairwise_of_forall_mem_list fun _ _ event mem prompt =>
      absurd prompt (silent event mem)
  · exact fun event mem _ _ _ => quiet event mem

end Event

namespace Machine

/-- Between two machines the store has stayed the same, and only events of a certain sort have
happened. -/
structure Adds (sort : Event → Prop) (before after : Machine Store) : Prop where
  /-- The store is the same. -/
  store_eq : after.store = before.store
  /-- What has happened in between. -/
  trace_eq : ∃ events, after.trace = before.trace ++ events ∧ ∀ event ∈ events, sort event

/-- Between two machines the store has stayed the same, and nothing has been tried that could have
changed it. -/
abbrev Quiet (before after : Machine Store) : Prop :=
  Adds (fun event => ¬event.IsChange) before after

/-- Between two machines the store has only been looked at, and the operator was asked nothing. -/
structure Looks (before after : Machine Store) : Prop extends Adds Event.IsLook before after where
  /-- The operator was asked nothing. -/
  answers_eq : after.answers = before.answers

namespace Adds

variable {sort other : Event → Prop} {before middle after : Machine Store}

theorem refl (machine : Machine Store) : Adds sort machine machine :=
  ⟨rfl, [], by simp⟩

theorem trans (first : Adds sort before middle) (second : Adds sort middle after) :
    Adds sort before after := by
  rcases first.trace_eq with ⟨earlier, firstTrace, earlierSort⟩
  rcases second.trace_eq with ⟨later, secondTrace, laterSort⟩
  refine ⟨second.store_eq.trans first.store_eq, earlier ++ later, ?_, ?_⟩
  · rw [secondTrace, firstTrace, List.append_assoc]
  · intro event mem
    rcases List.mem_append.mp mem with inEarlier | inLater
    · exact earlierSort event inEarlier
    · exact laterSort event inLater

instance : IsPreorder (Machine Store) (Adds sort) where
  refl := refl
  trans _ _ _ := trans

theorem mono (adds : Adds sort before after) (weaker : ∀ event, sort event → other event) :
    Adds other before after := by
  rcases adds.trace_eq with ⟨events, trace, ofSort⟩
  exact ⟨adds.store_eq, events, trace, fun event mem => weaker event (ofSort event mem)⟩

theorem advance (machine : Machine Store) {events : List Event}
    (ofSort : ∀ event ∈ events, sort event) :
    Adds sort machine (machine.advance machine.store events) :=
  ⟨rfl, events, rfl, ofSort⟩

theorem trans_advance (adds : Adds sort before after) {events : List Event}
    (ofSort : ∀ event ∈ events, sort event) :
    Adds sort before (after.advance after.store events) :=
  adds.trans (advance after ofSort)

theorem asked (machine : Machine Store) (prompt : Prompt) :
    Adds Event.IsDialogue machine (machine.asked prompt) := by
  refine ⟨rfl, _, rfl, ?_⟩
  intro event mem
  rcases List.mem_cons.mp mem with rfl | echo
  · exact True.intro
  · split at echo
    · rw [List.mem_singleton.mp echo]
      exact True.intro
    · rw [List.mem_singleton.mp echo]
      exact True.intro
    · simp at echo

theorem prefix_trace (adds : Adds sort before after) : before.trace <+: after.trace := by
  rcases adds.trace_eq with ⟨events, trace, _⟩
  exact ⟨events, trace.symm⟩

end Adds

/-- Between two machines, everything that the operator was asked was asked before anything was tried
that could have changed the store. -/
def AsksFirst (before after : Machine Store) : Prop :=
  ∃ asked, Quiet before asked ∧
    ∃ events, after.trace = asked.trace ++ events ∧ ∀ event ∈ events, ¬event.IsPrompt

namespace AsksFirst

variable {before middle after : Machine Store}

theorem of_quiet (quiet : Quiet before after) : AsksFirst before after :=
  ⟨after, quiet, [], by simp⟩

theorem quiet_trans (quiet : Quiet before middle) (asksFirst : AsksFirst middle after) :
    AsksFirst before after := by
  rcases asksFirst with ⟨asked, quietAsked, work⟩
  exact ⟨asked, quiet.trans quietAsked, work⟩

theorem advance (quiet : Quiet before middle) (store : Store) {events : List Event}
    (silent : ∀ event ∈ events, ¬event.IsPrompt) :
    AsksFirst before (middle.advance store events) :=
  ⟨middle, quiet, events, rfl, silent⟩

theorem trans_advance (asksFirst : AsksFirst before after) (store : Store) {events : List Event}
    (silent : ∀ event ∈ events, ¬event.IsPrompt) :
    AsksFirst before (after.advance store events) := by
  rcases asksFirst with ⟨asked, quiet, work, trace, workSilent⟩
  refine ⟨asked, quiet, work ++ events, ?_, ?_⟩
  · rw [trace_advance, trace, List.append_assoc]
  · intro event mem
    rcases List.mem_append.mp mem with inWork | inEvents
    · exact workSilent event inWork
    · exact silent event inEvents

theorem prefix_trace (asksFirst : AsksFirst before after) : before.trace <+: after.trace := by
  rcases asksFirst with ⟨asked, quiet, work, trace, _⟩
  exact quiet.prefix_trace.trans ⟨work, trace.symm⟩

theorem exists_promptsFirst (asksFirst : AsksFirst before after) :
    ∃ events, after.trace = before.trace ++ events ∧ Event.PromptsFirst events := by
  rcases asksFirst with ⟨asked, quiet, work, trace, silent⟩
  rcases quiet.trace_eq with ⟨dialogue, askedTrace, quietEvents⟩
  refine ⟨dialogue ++ work, ?_, Event.promptsFirst_append quietEvents silent⟩
  rw [trace, askedTrace, List.append_assoc]

end AsksFirst

namespace Looks

theorem quiet {before after : Machine Store} (looks : Looks before after) : Quiet before after :=
  looks.toAdds.mono fun _ => Event.IsLook.not_isChange

theorem refl (machine : Machine Store) : Looks machine machine :=
  ⟨Adds.refl machine, rfl⟩

theorem trans {before middle after : Machine Store} (first : Looks before middle)
    (second : Looks middle after) : Looks before after :=
  ⟨first.toAdds.trans second.toAdds, second.answers_eq.trans first.answers_eq⟩

instance : IsPreorder (Machine Store) Looks where
  refl := refl
  trans _ _ _ := trans

end Looks

end Machine

/-- Whatever machine an action starts from, the machine that it leaves behind is related to it. -/
def Action.Keeps (relation : Machine Store → Machine Store → Prop) (action : Action Store Result) :
    Prop :=
  ∀ machine, relation machine (action.outcome machine).2

/-- Whatever machine an attempt starts from, the machine that it leaves behind is related to it,
whether the attempt fails or not. -/
def Attempt.Keeps (relation : Machine Store → Machine Store → Prop)
    (attempt : Attempt Store Error Result) : Prop :=
  ∀ machine, relation machine (attempt.outcome machine).2

variable {relation : Machine Store → Machine Store → Prop} {machine after : Machine Store}

theorem Action.Keeps.of_outcome {action : Action Store Result} {result : Result}
    (kept : action.Keeps relation) (ran : action.outcome machine = (result, after)) :
    relation machine after := by
  simpa [ran] using kept machine

theorem Attempt.Keeps.of_outcome {attempt : Attempt Store Error Result}
    {result : Except Error Result} (kept : attempt.Keeps relation)
    (ran : attempt.outcome machine = (result, after)) : relation machine after := by
  simpa [ran] using kept machine

theorem Attempt.keeps_perform {action : Action Store Result} (kept : action.Keeps relation) :
    (perform action : Attempt Store Error Result).Keeps relation :=
  kept

theorem Attempt.Keeps.map {attempt : Attempt Store Error Result} (kept : attempt.Keeps relation)
    (change : Result → Other) : (change <$> attempt).Keeps relation := by
  intro machine
  rw [outcome_map]
  exact kept machine

theorem Action.Keeps.mono {other : Machine Store → Machine Store → Prop}
    {action : Action Store Result} (kept : action.Keeps relation)
    (weaker : ∀ before after, relation before after → other before after) : action.Keeps other :=
  fun machine => weaker _ _ (kept machine)

theorem Attempt.Keeps.mono {other : Machine Store → Machine Store → Prop}
    {attempt : Attempt Store Error Result} (kept : attempt.Keeps relation)
    (weaker : ∀ before after, relation before after → other before after) : attempt.Keeps other :=
  fun machine => weaker _ _ (kept machine)

/-- An event that is no change is all that emitting it brings. -/
theorem Action.quiet_emit {event : Event} (unchanging : ¬event.IsChange) :
    (emit event : Action Store Unit).Keeps Machine.Quiet :=
  fun machine => Machine.Adds.advance machine (by simpa using unchanging)

section Preorder

variable [IsPreorder (Machine Store) relation]

namespace Action

theorem keeps_pure (result : Result) : Keeps relation (pure result : Action Store Result) :=
  fun machine => refl_of relation machine

theorem Keeps.bind {action : Action Store Result} {next : Result → Action Store Other}
    (first : Keeps relation action) (second : ∀ result, Keeps relation (next result)) :
    Keeps relation (action >>= next) :=
  fun machine => trans_of relation (first machine) (second _ _)

end Action

namespace Attempt

theorem keeps_pure (result : Result) :
    Keeps relation (pure result : Attempt Store Error Result) :=
  fun machine => refl_of relation machine

theorem keeps_throw (error : Error) :
    Keeps relation (throw error : Attempt Store Error Result) :=
  fun machine => refl_of relation machine

theorem Keeps.bind {attempt : Attempt Store Error Result}
    {next : Result → Attempt Store Error Other} (first : Keeps relation attempt)
    (second : ∀ result, Keeps relation (next result)) : Keeps relation (attempt >>= next) := by
  intro machine
  rcases ran : attempt.outcome machine with ⟨error | result, after⟩
  · rw [outcome_bind_error ran]
    exact first.of_outcome ran
  · rw [outcome_bind_ok ran]
    exact trans_of relation (first.of_outcome ran) (second result after)

theorem Keeps.tryCatch {attempt : Attempt Store Error Result}
    {handler : Error → Attempt Store Error Result} (first : Keeps relation attempt)
    (second : ∀ error, Keeps relation (handler error)) :
    Keeps relation (MonadExcept.tryCatch attempt handler) := by
  intro machine
  rcases ran : attempt.outcome machine with ⟨error | result, after⟩
  · rw [outcome_tryCatch_error ran]
    exact trans_of relation (first.of_outcome ran) (second error after)
  · rw [outcome_tryCatch_ok ran]
    exact first.of_outcome ran

end Attempt

end Preorder

end OwnerKeys
