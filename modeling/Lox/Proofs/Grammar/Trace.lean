import Lox.Proofs.Grammar.Script
import Lox.Proofs.Grammar.Reading.Statement

/-! Scripts run without fuel, with all that happens on the way. Every call is of a script that
comes to an end, so that there is a run of every script, and the rules give what it gives. -/

namespace Lox.Grammar

variable {α β : Type}

/-! ### Moves -/

/-- A reader goes forwards to an outcome, and nothing is abandoned without a fault. -/
structure Reader.Reaches {α : Type} (before : Reader) (outcome : Option α × Reader) : Prop where
  advances : before.Advances outcome.2
  reported : outcome.1 = none → before.faults.length < outcome.2.faults.length

theorem Reader.Reaches.after {before middle : Reader} {outcome : Option α × Reader}
    (reaches : middle.Reaches outcome) (advance : before.Advances middle) :
    before.Reaches outcome :=
  ⟨advance.trans reaches.advances, fun failed =>
    Nat.lt_of_le_of_lt advance.faults.length_le (reaches.reported failed)⟩

theorem Meets.reaches {rule : Rule α} {before : Reader} {holds : α → Reader → Prop}
    (met : Meets rule before holds) : before.Reaches (rule before) := by
  refine ⟨met.advances, fun failed => ?_⟩
  unfold Meets at met
  rcases outcome : rule before with ⟨_ | value, after⟩
  · rw [outcome] at met
    exact met.2
  · rw [outcome] at failed
    cases failed

theorem Move.reaches (step : Move β) (before : Reader) : before.Reaches (step.rule before) := by
  cases step with
  | site => exact Meets.site.reaches
  | skip => exact ⟨before.advances_drop (List.tail_suffix _), nofun⟩
  | report token cause => exact (Meets.report token cause).reaches
  | abandon cause => exact (Meets.abandon cause fun _ _ => True).reaches
  | nextIs expected => exact (Meets.nextIs expected).reaches
  | accept? expected => exact (Meets.accept? expected).reaches
  | functionName? => exact functionName?_reads.reaches
  | newVariable _ | newAssign _ _ =>
      exact ⟨before.advances_numbered, nofun⟩

theorem Reader.advances_synchronized (reader : Reader) :
    reader.Advances { reader with rest := synchronize reader.rest } :=
  reader.advances_drop ((synchronize_suffix reader.rest).trans (List.tail_suffix _))

/-! ### Runs -/

/-- A move that is made, or a call that has come back. -/
inductive Event : Type 1 where
  | moved {β : Type} (step : Move β) (before : Reader)
  | returned {β : Type} (part : Part β) (before : Reader) (outcome : Option β × Reader)

def Event.reader : Event → Reader
  | .moved _ before => before
  | .returned _ _ outcome => outcome.2

namespace Script

/-- What happens, one after the other, when a script is run from a reader, and what comes of it. -/
inductive Runs : {α : Type} → Script α → Reader → List Event → Option α × Reader → Prop where
  | yield {α : Type} (value : α) (before : Reader) : Runs (.yield value) before [] (some value, before)
  | moved {α β : Type} {step : Move β} {next : β → Script α} {before middle : Reader} {value : β}
      {events : List Event} {outcome : Option α × Reader} :
      step.rule before = (some value, middle) → Runs (next value) middle events outcome →
      Runs (.move step next) before (.moved step before :: events) outcome
  | abandoned {α β : Type} {step : Move β} {next : β → Script α} {before after : Reader} :
      step.rule before = (none, after) →
      Runs (.move step next) before [.moved step before] (none, after)
  | returned {α β : Type} {part : Part β} {next : β → Script α} {before middle : Reader} {value : β}
      {inner events : List Event} {outcome : Option α × Reader} :
      Runs (of part) before inner (some value, middle) →
      Runs (next value) middle events outcome →
      Runs (.call part next) before
        (inner ++ .returned part before (some value, middle) :: events) outcome
  | unwound {α β : Type} {part : Part β} {next : β → Script α} {before after : Reader}
      {inner : List Event} :
      Runs (of part) before inner (none, after) →
      Runs (.call part next) before (inner ++ [.returned part before (none, after)]) (none, after)
  | attempted {α β : Type} {script : Script β} {next : Option β → Script α}
      {before middle : Reader} {value : β} {inner events : List Event}
      {outcome : Option α × Reader} :
      Runs script before inner (some value, middle) →
      Runs (next (some value)) middle events outcome →
      Runs (.attempt script next) before (inner ++ events) outcome
  | recovered {α β : Type} {script : Script β} {next : Option β → Script α}
      {before middle : Reader} {inner events : List Event} {outcome : Option α × Reader} :
      Runs script before inner (none, middle) →
      Runs (next none) { middle with rest := synchronize middle.rest } events outcome →
      Runs (.attempt script next) before (inner ++ events) outcome

namespace Runs

variable {α β : Type} {script : Script α} {before : Reader} {events others : List Event}
  {outcome result : Option α × Reader}

theorem unique (runs : Runs script before events outcome) (again : Runs script before others result) :
    events = others ∧ outcome = result := by
  induction runs generalizing others with
  | yield value before =>
      cases again
      exact ⟨rfl, rfl⟩
  | moved read rest ih =>
      cases again with
      | moved reads others =>
          cases read.symm.trans reads
          obtain ⟨rfl, rfl⟩ := ih others
          exact ⟨rfl, rfl⟩
      | abandoned reads => cases read.symm.trans reads
  | abandoned read =>
      cases again with
      | moved reads others => cases read.symm.trans reads
      | abandoned reads =>
          cases read.symm.trans reads
          exact ⟨rfl, rfl⟩
  | returned inner rest ih ihRest =>
      cases again with
      | returned innerAgain restAgain =>
          obtain ⟨rfl, same⟩ := ih innerAgain
          cases same
          obtain ⟨rfl, rfl⟩ := ihRest restAgain
          exact ⟨rfl, rfl⟩
      | unwound innerAgain => cases (ih innerAgain).2
  | unwound inner ih =>
      cases again with
      | returned innerAgain restAgain => cases (ih innerAgain).2
      | unwound innerAgain =>
          obtain ⟨rfl, same⟩ := ih innerAgain
          cases same
          exact ⟨rfl, rfl⟩
  | attempted inner rest ih ihRest =>
      cases again with
      | attempted innerAgain restAgain =>
          obtain ⟨rfl, same⟩ := ih innerAgain
          cases same
          obtain ⟨rfl, rfl⟩ := ihRest restAgain
          exact ⟨rfl, rfl⟩
      | recovered innerAgain restAgain => cases (ih innerAgain).2
  | recovered inner rest ih ihRest =>
      cases again with
      | attempted innerAgain restAgain => cases (ih innerAgain).2
      | recovered innerAgain restAgain =>
          obtain ⟨rfl, same⟩ := ih innerAgain
          cases same
          obtain ⟨rfl, rfl⟩ := ihRest restAgain
          exact ⟨rfl, rfl⟩

end Runs
end Script

variable {script : Script α} {before : Reader} {events : List Event}
  {outcome : Option α × Reader}

namespace Script.Runs

theorem reaches (runs : Runs script before events outcome) : before.Reaches outcome := by
  induction runs with
  | yield value before => exact ⟨.refl before, nofun⟩
  | @moved _ _ step next before middle value events outcome read rest ih =>
      have advance := (step.reaches before).advances
      rw [read] at advance
      exact ih.after advance
  | @abandoned _ _ step next before after read => 
      have reached := step.reaches before
      rw [read] at reached
      exact ⟨reached.advances, fun _ => reached.reported rfl⟩
  | returned inner rest ih ihRest => exact ihRest.after ih.advances
  | unwound inner ih => exact ⟨ih.advances, fun _ => ih.reported rfl⟩
  | attempted inner rest ih ihRest => exact ihRest.after ih.advances
  | recovered inner rest ih ihRest =>
      exact ihRest.after (ih.advances.trans (Reader.advances_synchronized _))

end Script.Runs

/-! ### What happens on the way -/

/-- Events happen one after the other on the way from a reader to another. -/
def Along (before : Reader) : List Event → Reader → Prop
  | [], after => before.Advances after
  | event :: events, after => before.Advances event.reader ∧ Along event.reader events after

namespace Along

variable {first second third : Reader} {events others : List Event}

theorem advances (along : Along first events second) : first.Advances second := by
  induction events generalizing first with
  | nil => exact along
  | cons event events ih => exact along.1.trans (ih along.2)

theorem after (along : Along second events third) (advance : first.Advances second) :
    Along first events third := by
  cases events with
  | nil => exact advance.trans along
  | cons event events => exact ⟨advance.trans along.1, along.2⟩

theorem append (earlier : Along first events second) (later : Along second others third) :
    Along first (events ++ others) third := by
  induction events generalizing first with
  | nil => exact later.after earlier
  | cons event events ih => exact ⟨earlier.1, ih earlier.2⟩

theorem member (along : Along first events second) {event : Event} (member : event ∈ events) :
    first.Advances event.reader ∧ event.reader.Advances second := by
  induction events generalizing first with
  | nil => cases member
  | cons head events ih =>
      rcases List.mem_cons.1 member with rfl | member
      · exact ⟨along.1, along.2.advances⟩
      · obtain ⟨from_, to_⟩ := ih along.2 member
        exact ⟨along.1.trans from_, to_⟩

theorem pairwise (along : Along first events second) :
    events.Pairwise fun one other => one.reader.Advances other.reader := by
  induction events generalizing first with
  | nil => exact .nil
  | cons head events ih =>
      exact .cons (fun event member => (along.2.member member).1) (ih along.2)

end Along

namespace Script.Runs

theorem along (runs : Runs script before events outcome) : Along before events outcome.2 := by
  induction runs with
  | yield value before => exact .refl before
  | @moved _ _ step next before middle value events outcome read rest ih =>
      have advance := (step.reaches before).advances
      rw [read] at advance
      exact ⟨.refl before, ih.after advance⟩
  | @abandoned _ _ step next before after read =>
      have advance := (step.reaches before).advances
      rw [read] at advance
      exact ⟨.refl before, advance⟩
  | returned inner rest ih ihRest => exact ih.append ⟨.refl _, ihRest⟩
  | unwound inner ih => exact ih.append ⟨.refl _, .refl _⟩
  | attempted inner rest ih ihRest => exact ih.append ihRest
  | recovered inner rest ih ihRest =>
      exact ih.append (ihRest.after (Reader.advances_synchronized _))

end Script.Runs

/-- A call among some events was a run of its script, and what happened in it is among them. -/
def Called (before : Reader) (events : List Event) {β : Type} (part : Part β) (start : Reader)
    (result : Option β × Reader) : Prop :=
  before.Advances start ∧ ∃ inner, Script.Runs (.of part) start inner result ∧ inner ⊆ events

theorem Called.among {part : Part β} {start middle : Reader} {result : Option β × Reader}
    {others : List Event} (called : Called middle others part start result)
    (advance : before.Advances middle) (within : others ⊆ events) :
    Called before events part start result := by
  obtain ⟨later, inner, runs, innerWithin⟩ := called
  exact ⟨advance.trans later, inner, runs, List.Subset.trans innerWithin within⟩

namespace Script.Runs

theorem called (runs : Runs script before events outcome) {part : Part β} {start : Reader}
    {result : Option β × Reader} (member : .returned part start result ∈ events) :
    Called before events part start result := by
  induction runs with
  | yield => cases member
  | @moved _ _ step next before middle value events outcome read rest ih =>
      have advance := (step.reaches before).advances
      rw [read] at advance
      rcases List.mem_cons.1 member with impossible | member
      · cases impossible
      · exact (ih member).among advance (List.subset_cons_self _ _)
  | abandoned =>
      rcases List.mem_cons.1 member with impossible | impossible <;> cases impossible
  | @returned _ _ _ _ _ _ _ inner _ _ innerRuns rest ih ihRest =>
      rcases List.mem_append.1 member with member | member
      · exact (ih member).among (.refl _) (List.subset_append_left _ _)
      rcases List.mem_cons.1 member with same | member
      · cases same
        exact ⟨.refl _, inner, innerRuns, List.subset_append_left _ _⟩
      · exact (ihRest member).among innerRuns.reaches.advances
          (List.subset_append_of_subset_right _ (List.subset_cons_self _ _))
  | @unwound _ _ _ _ _ _ inner innerRuns ih =>
      rcases List.mem_append.1 member with member | member
      · exact (ih member).among (.refl _) (List.subset_append_left _ _)
      · cases List.mem_singleton.1 member
        exact ⟨.refl _, inner, innerRuns, List.subset_append_left _ _⟩
  | attempted inner rest ih ihRest =>
      rcases List.mem_append.1 member with member | member
      · exact (ih member).among (.refl _) (List.subset_append_left _ _)
      · exact (ihRest member).among inner.reaches.advances (List.subset_append_right _ _)
  | recovered inner rest ih ihRest =>
      rcases List.mem_append.1 member with member | member
      · exact (ih member).among (.refl _) (List.subset_append_left _ _)
      · exact (ihRest member).among
          (inner.reaches.advances.trans (Reader.advances_synchronized _))
          (List.subset_append_right _ _)

end Script.Runs

end Lox.Grammar
