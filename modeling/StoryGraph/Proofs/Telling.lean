import StoryGraph.Proofs.Dispatch

/-!
Telling a story without a session. A telling holds the items still to come, what it
remembers (the variables, the visits and the options taken) and the answers still to
be given. It has no cursor, no choice on record and no inline item: the body of a
condition that holds is simply the next item, with the same items after it.

A story may go round for ever, so a telling is cut off after a number of items. One
that was not cut off is the same for every larger number.
-/

set_option autoImplicit false

namespace StoryGraph

/-- What a telling remembers: variables, visits and the numbers of the options taken. -/
structure Memory where
  bindings : Table Scalar
  visits : Table Nat
  taken : List Nat

namespace Memory

def read (memory : Memory) (name : String) : Scalar := (memory.bindings.get? name).getD .nil

def write (memory : Memory) (name : String) (value : Scalar) : Memory :=
  { memory with bindings := memory.bindings.insert name value }

def visit (memory : Memory) (knot : String) : Memory :=
  { memory with visits := memory.visits.insert knot ((memory.visits.get? knot).getD 0 + 1) }

def take (memory : Memory) (number : Nat) : Memory :=
  { memory with taken := memory.taken ++ [number] }

def opening (knot : String) : Memory := visit ⟨.empty, .empty, []⟩ knot

/-- Set variables, one after another, up to a value that is no scalar. -/
def assignAll (memory : Memory) : List (String × Value) → Memory × Except Fault Unit
  | [] => (memory, .ok ())
  | (name, value) :: rest =>
      match value.scalar? with
      | none => (memory, .error (.invalidValue name value.typeName))
      | some scalar => (memory.write name scalar).assignAll rest

end Memory

/-- How a telling stops. -/
inductive Stop where
  | finished
  /-- A choice is left without an answer. -/
  | waiting
  | failed (fault : Fault)
  | unfinished

/-- What was shown, how it stopped, and what is remembered. -/
structure Telling where
  events : List Event
  ending : Stop
  memory : Memory

/-- A telling with one event before its own. -/
def Telling.after (telling : Telling) (event : Event) : Telling :=
  { telling with events := event :: telling.events }

/-- The option with a number. Options count from one. -/
def Choice.option? (choice : Choice) (number : Nat) : Option ChoiceOption :=
  if number = 0 then none else choice.options[number - 1]?

namespace Story

/-- Do what an option asks for; what comes next is its target, or the rest. -/
def pursue (story : Story) (memory : Memory) (option : ChoiceOption) (rest : List Item) :
    Memory × Except Fault (List Item) :=
  match memory.assignAll option.assignments with
  | (memory, .error fault) => (memory, .error fault)
  | (memory, .ok _) =>
      match option.target with
      | none => (memory, .ok rest)
      | some target =>
          match story.get? target with
          | none => (memory, .error (.unknownDivert target))
          | some items => (memory.visit target, .ok items)

/-- Answer a choice by the next answer, log it and go on. Without an option to take the
choice is left waiting. -/
def answer (story : Story) (goOn : List Item → Memory → List Nat → Telling)
    (choice : Choice) (rest : List Item) (memory : Memory) : List Nat → Telling
  | [] => ⟨[], .waiting, memory⟩
  | number :: answers =>
      match choice.option? number with
      | none => ⟨[], .waiting, memory⟩
      | some option =>
          match story.pursue (memory.take number) option rest with
          | (memory, .error fault) => ⟨[], .failed fault, memory⟩
          | (memory, .ok items) => goOn items memory answers

/-- Tell the items still to come, with answers to the choices among them. -/
def tell (story : Story) (strictTypes : Bool) :
    Nat → List Item → Memory → List Nat → Telling
  | 0, _, memory, _ => ⟨[], .unfinished, memory⟩
  | _ + 1, [], memory, _ => ⟨[.theEnd], .finished, memory⟩
  | fuel + 1, item :: rest, memory, answers =>
      match item with
      | .plain (.scalar (.string body)) =>
          (tell story strictTypes fuel rest memory answers).after (.line (.ofBody body))
      | .line line => (tell story strictTypes fuel rest memory answers).after (.line line)
      | .set name value =>
          match value.scalar? with
          | none => ⟨[], .failed (.invalidValue name value.typeName), memory⟩
          | some scalar => tell story strictTypes fuel rest (memory.write name scalar) answers
      | .divert target =>
          match story.get? target with
          | none => ⟨[], .failed (.unknownDivert target), memory⟩
          | some items => tell story strictTypes fuel items (memory.visit target) answers
      | .condition test body =>
          match test.verdict strictTypes (memory.read test.name) with
          | .error fault => ⟨[], .failed fault, memory⟩
          | .ok false => tell story strictTypes fuel rest memory answers
          | .ok true =>
              match body.present? with
              | none => tell story strictTypes fuel rest memory answers
              | some inner => tell story strictTypes fuel (inner :: rest) memory answers
      | .choice choice =>
          (story.answer (tell story strictTypes fuel) choice rest memory answers).after
            (.choice choice.prompt choice.labels)
      | .plain _ | .unrecognized _ _ => tell story strictTypes fuel rest memory answers

@[simp] theorem tell_cons (story : Story) (strictTypes : Bool) (fuel : Nat) (item : Item)
    (rest : List Item) (memory : Memory) (answers : List Nat) :
    story.tell strictTypes (fuel + 1) (item :: rest) memory answers =
      match item.action with
      | .say line => (story.tell strictTypes fuel rest memory answers).after (.line line)
      | .ask choice =>
          (story.answer (story.tell strictTypes fuel) choice rest memory answers).after
            (.ofChoice choice)
      | .goTo target =>
          match story.get? target with
          | none => ⟨[], .failed (.unknownDivert target), memory⟩
          | some items => story.tell strictTypes fuel items (memory.visit target) answers
      | .assign name value =>
          match value.scalar? with
          | none => ⟨[], .failed (.invalidValue name value.typeName), memory⟩
          | some scalar => story.tell strictTypes fuel rest (memory.write name scalar) answers
      | .decide test body =>
          match test.verdict strictTypes (memory.read test.name) with
          | .error fault => ⟨[], .failed fault, memory⟩
          | .ok holds =>
              story.tell strictTypes fuel ((if holds then body else none).toList ++ rest)
                memory answers
      | .skip _ => story.tell strictTypes fuel rest memory answers := by
  cases item with
  | condition test body =>
      simp only [tell, Item.action]
      cases test.verdict strictTypes (memory.read test.name) with
      | error fault => rfl
      | ok holds =>
          cases holds with
          | false => rfl
          | true => cases body.present? <;> rfl
  | plain value =>
      cases value with
      | scalar scalar => cases scalar <;> rfl
      | list items => rfl
      | dict entries => rfl
  | _ => rfl

/-- An answer goes on the same way as long as what comes after it does. -/
theorem answer_congr {story : Story} {goOn goFurther : List Item → Memory → List Nat → Telling}
    (same : ∀ items memory answers, (goOn items memory answers).ending ≠ .unfinished →
      goFurther items memory answers = goOn items memory answers)
    {choice : Choice} {rest : List Item} {memory : Memory} {answers : List Nat}
    (ended : (story.answer goOn choice rest memory answers).ending ≠ .unfinished) :
    story.answer goFurther choice rest memory answers =
      story.answer goOn choice rest memory answers := by
  cases answers with
  | nil => rfl
  | cons number answers =>
      cases offered : choice.option? number with
      | none => simp only [answer, offered]
      | some option =>
          rcases pursued : story.pursue (memory.take number) option rest with
            ⟨memory, fault | items⟩
          · simp only [answer, offered, pursued]
          · simp only [answer, offered, pursued] at ended ⊢
            apply same
            exact ended

/-- A telling that was not cut off is the same with more fuel. -/
theorem tell_with_more {story : Story} {strictTypes : Bool} {fuel : Nat} {items : List Item}
    {memory : Memory} {answers : List Nat}
    (ended : (story.tell strictTypes fuel items memory answers).ending ≠ .unfinished)
    (more : Nat) :
    story.tell strictTypes (fuel + more) items memory answers =
      story.tell strictTypes fuel items memory answers := by
  induction fuel generalizing items memory answers with
  | zero => exact absurd rfl ended
  | succ fuel inductionHypothesis =>
      rw [Nat.add_right_comm]
      cases items with
      | nil => rfl
      | cons item rest =>
          rw [tell_cons] at ended ⊢
          rw [tell_cons]
          cases action : item.action with
          | say line =>
              rw [action] at ended
              exact congrArg (Telling.after · _) (inductionHypothesis ended)
          | ask choice =>
              rw [action] at ended
              apply congrArg (Telling.after · _)
              apply answer_congr _ ended
              intro items memory answers
              exact inductionHypothesis
          | goTo target =>
              cases found : story.get? target with
              | none => simp only [found]
              | some items =>
                  simp only [action, found] at ended ⊢
                  exact inductionHypothesis ended
          | assign name value =>
              cases isScalar : value.scalar? with
              | none => simp only [isScalar]
              | some scalar =>
                  simp only [action, isScalar] at ended ⊢
                  exact inductionHypothesis ended
          | decide test body =>
              cases judged : test.verdict strictTypes (memory.read test.name) with
              | error fault => simp only [judged]
              | ok holds =>
                  simp only [action, judged] at ended ⊢
                  exact inductionHypothesis ended
          | skip kind =>
              rw [action] at ended
              exact inductionHypothesis ended

end Story

end StoryGraph
