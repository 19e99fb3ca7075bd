import CeramicAnchor.Concurrency.RelyGuarantee

/-
This file carries the operations of one program out by programs over other operations.
-/

namespace CeramicAnchor.Concurrency

universe u v w

variable {Op : Type u} {Reply : Op → Type} {Low : Type u} {LowReply : Low → Type} {Err A : Type}

/-- Each operation is replaced by its implementation, and a rejected implementation rejects the operation. -/
def Prog.implement (implementation : (op : Op) → Prog Low LowReply Err (Reply op)) :
    Prog Op Reply Err A → Prog Low LowReply Err A
  | .done value => .done value
  | .fail error => .fail error
  | .halted => .halted
  | .ask op next => (implementation op).attempt >>= fun reply => (next reply).implement implementation

section Programs

variable {implementation : (op : Op) → Prog Low LowReply Err (Reply op)}

/-- The implementation performs only the operations that the implementations of its operations perform. -/
theorem Prog.confined_implement {inside : Op → Prop} {low : Low → Prop} {program : Prog Op Reply Err A}
    (confined : program.Confined inside) (bodies : ∀ op, inside op → (implementation op).Confined low) :
    (program.implement implementation).Confined low := by
  induction program with
  | done value => trivial
  | fail error => trivial
  | halted => trivial
  | ask op next ih =>
      exact confined_bind (confined_attempt (bodies op confined.1)) fun reply => ih reply (confined.2 reply)

/-- A program opens at most once what its implementation closes, so nothing inside comes after the end. -/
theorem Prog.leads_implement {opens : Op → Prop} {closes inside : Low → Prop} {program : Prog Op Reply Err A}
    (closing :
      ∀ op, (implementation op).Leads fun op _ rest => closes op → rest.Confined fun low => ¬ inside low)
    (plain : ∀ op, ¬ opens op → (implementation op).Confined fun low => ¬ closes low ∧ ¬ inside low)
    (once : program.Leads fun op _ rest => opens op → rest.Confined fun later => ¬ opens later) :
    (program.implement implementation).Leads fun op _ rest => closes op → rest.Confined fun low =>
    ¬ inside low := by
  induction program with
  | done value => trivial
  | fail error => trivial
  | halted => trivial
  | ask op next ih =>
      refine leads_bind ?_ fun reply => ih reply (once reply).2
      by_cases opening : opens op
      · have later : ∀ reply, ((next reply).implement implementation).Confined fun low => ¬ inside low :=
          fun reply => confined_implement ((once reply).1 opening) fun other kept =>
            confined_mono (plain other kept) fun _ => And.right
        refine leads_handle (leads_bind (leads_mono (closing op) ?_) fun value => trivial) fun error =>
          trivial
        intro low reply rest outside ends
        exact confined_bind
          (confined_handle (confined_bind (outside ends) fun _ => trivial) fun _ => trivial) later
      · exact leads_confined (confined_attempt (plain op opening)) fun low _ _ outside ends =>
          absurd ends outside.1

end Programs

variable {State : Type v} {LowState : Type w} {upper : Setting Op Reply Err State}
  {lower : Setting Low LowReply Err LowState} {guarantee : Guarantee Op Reply Err State}
  {lowGuarantee : Guarantee Low LowReply Err LowState} {view : LowState → State}

/-- Between two lower states the operation took place once with this reply, and the others moved around it. -/
def Linearizes (upper : Setting Op Reply Err State) (view : LowState → State) (op : Op) (first : LowState)
    (reply : Except Err (Reply op)) (last : LowState) : Prop :=
  ∃ before after, upper.rely (view first) before ∧ upper.perform op before reply after ∧
    upper.rely after (view last)

/-- The implementation keeps the lower invariant, it is allowed what the operation is, and it takes
effect once. -/
def Implements (upper : Setting Op Reply Err State) (guarantee : Guarantee Op Reply Err State)
    (lower : Setting Low LowReply Err LowState) (lowGuarantee : Guarantee Low LowReply Err LowState)
    (view : LowState → State) (invariant : LowState → Prop) (op : Op)
    (body : Prog Low LowReply Err (Reply op)) :
    Prop :=
  ∀ first, invariant first → (∀ before, upper.rely (view first) before → ∀ reply after,
      upper.perform op before reply after → guarantee op before reply after) →
    Sat lower lowGuarantee
    (fun value last => invariant last ∧ Linearizes upper view op first (.ok value) last)
      (fun error last => invariant last ∧ Linearizes upper view op first (.error error) last) body first

/-- An implementation meets a guarantee that each of its parts meets in every state. -/
theorem sat_implement_each {implementation : (op : Op) → Prog Low LowReply Err (Reply op)}
    (bodies :
      ∀ op first, Sat lower lowGuarantee (fun _ _ => True) (fun _ _ => True) (implementation op) first)
    (program : Prog Op Reply Err A) (state : LowState) :
    Sat lower lowGuarantee (fun _ _ => True) (fun _ _ => True) (program.implement implementation) state := by
  induction program generalizing state with
  | done value => trivial
  | fail error => trivial
  | halted => trivial
  | ask op next ih =>
      exact sat_bind (fun _ _ => True) (sat_attempt_settled _ (bodies op state)) fun reply reached _ =>
        ih reply reached

/-- A specification of the upper program holds of its implementation. -/
theorem sat_implement {implementation : (op : Op) → Prog Low LowReply Err (Reply op)}
    {invariant : LowState → Prop}
    (implements : ∀ op, Implements upper guarantee lower lowGuarantee view invariant op (implementation op))
    {post : A → State → Prop} {raise : Err → State → Prop}
    (returned : ∀ value {first second}, upper.rely first second → post value first → post value second)
    (rejected : ∀ error {first second}, upper.rely first second → raise error first → raise error second)
    {program : Prog Op Reply Err A} {state : LowState} (held : invariant state)
    (body : Sat upper guarantee post raise program (view state)) :
    Sat lower lowGuarantee (fun value reached => invariant reached ∧ post value (view reached))
      (fun error reached => invariant reached ∧ raise error (view reached)) (program.implement implementation)
      state := by
  induction program generalizing state with
  | done value => exact ⟨held, body⟩
  | fail error => exact ⟨held, body⟩
  | halted => trivial
  | ask op next ih =>
      have allowed : ∀ before, upper.rely (view state) before → ∀ reply after,
          upper.perform op before reply after → guarantee op before reply after :=
        fun before others reply after performed => (body before others reply after performed).1
      refine sat_bind
        (fun reply reached => invariant reached ∧ Linearizes upper view op state reply reached) ?_ ?_
      · refine sat_results (sat_attempt (implements op state held allowed)) ?_ fun _ _ met => met
        intro outcome reached met
        cases outcome with
        | ok value => exact met
        | error error => exact met
      · rintro reply reached ⟨kept, before, after, others, performed, later⟩
        exact ih reply kept (sat_stable returned rejected (body before others reply after performed).2 later)

section Related

variable {related : LowState → State → Prop}

/-- The operation took place once from this upper state, and the lower state is related to what followed. -/
def Carries (upper : Setting Op Reply Err State) (related : LowState → State → Prop) (op : Op) (state : State)
    (reply : Except Err (Reply op)) (last : LowState) : Prop :=
  ∃ before after later, upper.rely state before ∧ upper.perform op before reply after ∧
    upper.rely after later ∧ related last later

/-- The implementation is allowed what the operation is, and it takes effect once in a related state. -/
def ImplementsUnder (upper : Setting Op Reply Err State) (guarantee : Guarantee Op Reply Err State)
    (lower : Setting Low LowReply Err LowState) (lowGuarantee : Guarantee Low LowReply Err LowState)
    (related : LowState → State → Prop) (op : Op) (body : Prog Low LowReply Err (Reply op)) : Prop :=
  ∀ first state, related first state → (∀ before, upper.rely state before → ∀ reply after,
      upper.perform op before reply after → guarantee op before reply after) →
    Sat lower lowGuarantee (fun value last => Carries upper related op state (.ok value) last)
      (fun error last => Carries upper related op state (.error error) last) body first

/-- A specification of the upper program holds of its implementation in related states. -/
theorem sat_implement_related {implementation : (op : Op) → Prog Low LowReply Err (Reply op)}
    (implements :
      ∀ op, ImplementsUnder upper guarantee lower lowGuarantee related op (implementation op))
    {post : A → State → Prop} {raise : Err → State → Prop}
    (returned : ∀ value {first second}, upper.rely first second → post value first → post value second)
    (rejected : ∀ error {first second}, upper.rely first second → raise error first → raise error second)
    {program : Prog Op Reply Err A} {low : LowState} {state : State} (joined : related low state)
    (body : Sat upper guarantee post raise program state) :
    Sat lower lowGuarantee (fun value reached => ∃ state, related reached state ∧ post value state)
      (fun error reached => ∃ state, related reached state ∧ raise error state)
      (program.implement implementation) low := by
  induction program generalizing low state with
  | done value => exact ⟨state, joined, body⟩
  | fail error => exact ⟨state, joined, body⟩
  | halted => trivial
  | ask op next ih =>
      have allowed : ∀ before, upper.rely state before → ∀ reply after,
          upper.perform op before reply after → guarantee op before reply after :=
        fun before others reply after performed => (body before others reply after performed).1
      refine sat_bind (fun reply reached => Carries upper related op state reply reached) ?_ ?_
      · refine sat_results (sat_attempt (implements op low state joined allowed)) ?_ fun _ _ met => met
        intro outcome reached met
        cases outcome with
        | ok value => exact met
        | error error => exact met
      · rintro reply reached ⟨before, after, later, others, performed, moved, still⟩
        exact ih reply still (sat_stable returned rejected (body before others reply after performed).2 moved)

end Related

section Calls

variable {State : Type v}

/-- The setting that a program sees whose operations are operations of a larger system. -/
def Setting.within (lower : Setting Low LowReply Err State) (lift : Op → Low) :
    Setting Op (fun op => LowReply (lift op)) Err State where
  perform op := lower.perform (lift op)
  rely := lower.rely
  rely_refl := lower.rely_refl
  rely_trans := lower.rely_trans

/-- A specification within a larger system holds of the program that calls its operations. -/
theorem sat_within {lower : Setting Low LowReply Err State} {lift : Op → Low}
    {guarantee : Guarantee Low LowReply Err State} {post : A → State → Prop} {raise : Err → State → Prop}
    {program : Prog Op (fun op => LowReply (lift op)) Err A} {state : State}
    (body : Sat (lower.within lift) (fun op => guarantee (lift op)) post raise program state) :
    Sat lower guarantee post raise (program.implement fun op => Prog.call (lift op)) state := by
  induction program generalizing state with
  | done value => exact body
  | fail error => exact body
  | halted => trivial
  | ask op next ih =>
      intro before others reply after performed
      obtain ⟨meets, rest⟩ := body before others reply after performed
      cases reply with
      | ok value => exact ⟨meets, ih _ rest⟩
      | error error => exact ⟨meets, ih _ rest⟩

/-- A path of the program is one of the program that calls its operations. -/
theorem Path.within {lower : Setting Low LowReply Err State} {lift : Op → Low}
    {program : Prog Op (fun op => LowReply (lift op)) Err A} {start last : State} {value : A}
    {trace : List (Event Op (fun op => LowReply (lift op)) Err State)}
    (path : Path (lower.within lift) program start trace (.done value) last) :
    Path lower (program.implement fun op => Prog.call (lift op)) start
      (trace.map fun event => ⟨lift event.op, event.before, event.reply, event.after⟩) (.done value)
      last := by
  generalize finished : Prog.done value = residue at path
  induction path with
  | stop program state =>
      subst finished
      exact .stop _ _
  | @perform op next reply _ _ _ _ _ _ others performed _ ih =>
      refine .perform others (show lower.perform (lift op) _ _ _ from performed) ?_
      cases reply with
      | ok value => exact ih finished
      | error error => exact ih finished

end Calls

end CeramicAnchor.Concurrency
