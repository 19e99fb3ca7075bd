import Mathlib.Logic.Basic

namespace CeramicAnchor.Concurrency

universe u

/-- A program returns a value, rejects, never goes on, or awaits the reply to one operation. -/
inductive Prog (Op : Type u) (Reply : Op → Type) (Err A : Type) : Type u where
  | done (value : A)
  | fail (error : Err)
  | halted
  | ask (op : Op) (next : Except Err (Reply op) → Prog Op Reply Err A)

namespace Prog

variable {Op : Type u} {Reply : Op → Type} {Err A B C : Type}

def bind : Prog Op Reply Err A → (A → Prog Op Reply Err B) → Prog Op Reply Err B
  | .done value, continue_ => continue_ value
  | .fail error, _ => .fail error
  | .halted, _ => .halted
  | .ask op next, continue_ => .ask op fun reply => (next reply).bind continue_

/-- A rejection enters the handler, and a returned value skips it. -/
def handle : Prog Op Reply Err A → (Err → Prog Op Reply Err A) → Prog Op Reply Err A
  | .done value, _ => .done value
  | .fail error, handler => handler error
  | .halted, _ => .halted
  | .ask op next, handler => .ask op fun reply => (next reply).handle handler

instance : Monad (Prog Op Reply Err) where
  pure := .done
  bind := bind

instance : MonadExcept Err (Prog Op Reply Err) where
  throw := .fail
  tryCatch := handle

/-- The call awaits one operation and rethrows its rejection. -/
def call (op : Op) : Prog Op Reply Err (Reply op) :=
  .ask op fun
    | .ok value => .done value
    | .error error => .fail error

/-- The attempt turns a rejection into a value. -/
def attempt (program : Prog Op Reply Err A) : Prog Op Reply Err (Except Err A) :=
  tryCatch (program >>= fun value => pure (.ok value)) fun error => pure (.error error)

theorem pure_eq (value : A) : (pure value : Prog Op Reply Err A) = .done value := rfl

@[simp] theorem done_bind (value : A) (continue_ : A → Prog Op Reply Err B) :
    (Prog.done value >>= continue_) = continue_ value := rfl

@[simp] theorem ask_bind (op : Op) (next : Except Err (Reply op) → Prog Op Reply Err A)
    (continue_ : A → Prog Op Reply Err B) :
    (Prog.ask op next >>= continue_) = .ask op fun reply => next reply >>= continue_ := rfl

theorem bind_done (program : Prog Op Reply Err A) :
    (program >>= fun value => Prog.done value) = program := by
  induction program with
  | done value => rfl
  | fail error => rfl
  | halted => rfl
  | ask op next ih =>
      rw [ask_bind]
      congr 1
      funext reply
      exact ih reply

theorem bind_assoc (program : Prog Op Reply Err A) (first : A → Prog Op Reply Err B)
    (second : B → Prog Op Reply Err C) :
    ((program >>= first) >>= second) = program >>= fun value => first value >>= second := by
  induction program with
  | done value => rfl
  | fail error => rfl
  | halted => rfl
  | ask op next ih =>
      simp only [ask_bind]
      congr 1
      funext reply
      exact ih reply

instance : LawfulMonad (Prog Op Reply Err) := LawfulMonad.mk' _
  (fun program => bind_done program)
  (fun _ _ => rfl)
  bind_assoc

/-- The program is confined to the operations with one property. -/
def Confined (inside : Op → Prop) : Prog Op Reply Err A → Prop
  | .done _ => True
  | .fail _ => True
  | .halted => True
  | .ask op next => inside op ∧ ∀ reply, (next reply).Confined inside

theorem confined_call {inside : Op → Prop} (op : Op) (member : inside op) :
    (call op : Prog Op Reply Err (Reply op)).Confined inside := by
  refine ⟨member, fun reply => ?_⟩
  cases reply <;> trivial

theorem confined_bind {inside : Op → Prop} {program : Prog Op Reply Err A}
    {continue_ : A → Prog Op Reply Err B} (head : program.Confined inside)
    (tail : ∀ value, (continue_ value).Confined inside) :
    (program >>= continue_).Confined inside := by
  induction program with
  | done value => exact tail value
  | fail error => trivial
  | halted => trivial
  | ask op next ih =>
      obtain ⟨member, rest⟩ := head
      exact ⟨member, fun reply => ih reply (rest reply)⟩

theorem confined_handle {inside : Op → Prop} {program : Prog Op Reply Err A}
    {handler : Err → Prog Op Reply Err A} (body : program.Confined inside)
    (recovery : ∀ error, (handler error).Confined inside) :
    (tryCatch program handler).Confined inside := by
  induction program with
  | done value => trivial
  | fail error => exact recovery error
  | halted => trivial
  | ask op next ih =>
      obtain ⟨member, rest⟩ := body
      exact ⟨member, fun reply => ih reply (rest reply)⟩

theorem confined_attempt {inside : Op → Prop} {program : Prog Op Reply Err A}
    (body : program.Confined inside) : program.attempt.Confined inside :=
  confined_handle (confined_bind body fun _ => trivial) fun _ => trivial

theorem confined_mono {inside larger : Op → Prop} {program : Prog Op Reply Err A}
    (body : program.Confined inside) (grows : ∀ op, inside op → larger op) :
    program.Confined larger := by
  induction program with
  | done value => trivial
  | fail error => trivial
  | halted => trivial
  | ask op next ih => exact ⟨grows op body.1, fun reply => ih reply (body.2 reply)⟩

/-- Whatever the replies are, a returned value meets the condition. -/
def Returns (meets : A → Prop) : Prog Op Reply Err A → Prop
  | .done value => meets value
  | .fail _ => True
  | .halted => True
  | .ask _ next => ∀ reply, (next reply).Returns meets

theorem returns_bind {middle : A → Prop} {meets : B → Prop} {program : Prog Op Reply Err A}
    {continue_ : A → Prog Op Reply Err B} (head : program.Returns middle)
    (tail : ∀ value, middle value → (continue_ value).Returns meets) :
    (program >>= continue_).Returns meets := by
  induction program with
  | done value => exact tail value head
  | fail error => trivial
  | halted => trivial
  | ask op next ih => exact fun reply => ih reply (head reply)

/-- What the first part returns can be used for the rest. -/
theorem confined_returns {inside : Op → Prop} {meets : A → Prop} {program : Prog Op Reply Err A}
    {continue_ : A → Prog Op Reply Err B} (head : program.Confined inside) (returns : program.Returns meets)
    (tail : ∀ value, meets value → (continue_ value).Confined inside) :
    (program >>= continue_).Confined inside := by
  induction program with
  | done value => exact tail value returns
  | fail error => trivial
  | halted => trivial
  | ask op next ih =>
      obtain ⟨member, rest⟩ := head
      exact ⟨member, fun reply => ih reply (rest reply) (returns reply)⟩

theorem returns_trivial (program : Prog Op Reply Err A) : program.Returns fun _ => True := by
  induction program with
  | done value => trivial
  | fail error => trivial
  | halted => trivial
  | ask op next ih => exact fun reply => ih reply

/-- Whatever the reply to an operation is, the rest of the program meets the condition. -/
def Leads (holds : (op : Op) → Except Err (Reply op) → Prog Op Reply Err A → Prop) :
    Prog Op Reply Err A → Prop
  | .done _ => True
  | .fail _ => True
  | .halted => True
  | .ask op next => ∀ reply, holds op reply (next reply) ∧ (next reply).Leads holds

theorem leads_bind {holds : (op : Op) → Except Err (Reply op) → Prog Op Reply Err B → Prop}
    {program : Prog Op Reply Err A} {continue_ : A → Prog Op Reply Err B}
    (head : program.Leads fun op reply rest => holds op reply (rest >>= continue_))
    (tail : ∀ value, (continue_ value).Leads holds) : (program >>= continue_).Leads holds := by
  induction program with
  | done value => exact tail value
  | fail error => trivial
  | halted => trivial
  | ask op next ih =>
      intro reply
      exact ⟨(head reply).1, ih reply (head reply).2⟩

theorem leads_handle {holds : (op : Op) → Except Err (Reply op) → Prog Op Reply Err A → Prop}
    {program : Prog Op Reply Err A} {handler : Err → Prog Op Reply Err A}
    (body : program.Leads fun op reply rest => holds op reply (tryCatch rest handler))
    (recovery : ∀ error, (handler error).Leads holds) : (tryCatch program handler).Leads holds := by
  induction program with
  | done value => trivial
  | fail error => exact recovery error
  | halted => trivial
  | ask op next ih =>
      intro reply
      exact ⟨(body reply).1, ih reply (body reply).2⟩

theorem leads_mono {holds weaker : (op : Op) → Except Err (Reply op) → Prog Op Reply Err A → Prop}
    {program : Prog Op Reply Err A} (body : program.Leads holds)
    (weaken : ∀ op reply rest, holds op reply rest → weaker op reply rest) : program.Leads weaker := by
  induction program with
  | done value => trivial
  | fail error => trivial
  | halted => trivial
  | ask op next ih =>
      intro reply
      exact ⟨weaken op reply _ (body reply).1, ih reply (body reply).2⟩

/-- What holds after each operation that the program is confined to holds along the program. -/
theorem leads_confined {inside : Op → Prop}
    {holds : (op : Op) → Except Err (Reply op) → Prog Op Reply Err A → Prop}
    {program : Prog Op Reply Err A} (confined : program.Confined inside)
    (always : ∀ op reply rest, inside op → holds op reply rest) : program.Leads holds := by
  induction program with
  | done value => trivial
  | fail error => trivial
  | halted => trivial
  | ask op next ih => exact fun reply => ⟨always op reply _ confined.1, ih reply (confined.2 reply)⟩

theorem leads_call (op : Op)
    {holds : (other : Op) → Except Err (Reply other) → Prog Op Reply Err (Reply op) → Prop}
    (resolves : ∀ value, holds op (.ok value) (.done value))
    (rejects : ∀ error, holds op (.error error) (.fail error)) :
    (call op : Prog Op Reply Err (Reply op)).Leads holds := by
  intro reply
  cases reply with
  | ok value => exact ⟨resolves value, trivial⟩
  | error error => exact ⟨rejects error, trivial⟩

/-- No operation like the first one follows it. -/
theorem leads_once {inside : Op → Prop} {op : Op} {continue_ : Reply op → Prog Op Reply Err A}
    (later : ∀ reply, (continue_ reply).Confined fun other => ¬ inside other) :
    (call op >>= continue_).Leads fun other _ rest =>
      inside other → rest.Confined fun other => ¬ inside other := by
  refine leads_bind (leads_call op (fun reply _ => later reply) fun _ _ => trivial) fun reply => ?_
  exact leads_confined (later reply) fun _ _ _ outside opening => absurd opening outside

/-- The program catches no rejection. -/
def Rethrows (program : Prog Op Reply Err A) : Prop :=
  program.Leads fun _ reply rest => ∀ error, reply = .error error → rest = .fail error

theorem rethrows_call (op : Op) : (call op : Prog Op Reply Err (Reply op)).Rethrows :=
  leads_call op (fun _ _ same => by cases same) (fun _ _ same => by cases same; rfl)

theorem rethrows_bind {program : Prog Op Reply Err A} {continue_ : A → Prog Op Reply Err B}
    (head : program.Rethrows) (tail : ∀ value, (continue_ value).Rethrows) :
    (program >>= continue_).Rethrows :=
  leads_bind (leads_mono head fun _ _ _ rethrown error same => by rw [rethrown error same]; rfl) tail

/-- The program runs alone with a service that answers each operation, and it may never come to an outcome. -/
def alone {State : Type} (answer : (op : Op) → State → Except Err (Reply op) × State) :
    Prog Op Reply Err A → State → Option (Except Err A × State)
  | .done value, state => some (.ok value, state)
  | .fail error, state => some (.error error, state)
  | .halted, _ => none
  | .ask op next, state => (next (answer op state).1).alone answer (answer op state).2

end Prog

end CeramicAnchor.Concurrency
