import CeramicAnchor.Concurrency.Program

namespace CeramicAnchor.Concurrency

universe u v

variable {Op : Type u} {Reply : Op → Type} {Err A B : Type} {State : Type v}

/-- A setting fixes what an operation does and what the other programs may change between two operations. -/
structure Setting (Op : Type u) (Reply : Op → Type) (Err : Type) (State : Type v) where
  perform : (op : Op) → State → Except Err (Reply op) → State → Prop
  rely : State → State → Prop
  rely_refl : ∀ state, rely state state
  rely_trans : ∀ {first second third}, rely first second → rely second third → rely first third

/-- An event records one performed operation with the states around it. -/
structure Event (Op : Type u) (Reply : Op → Type) (Err : Type) (State : Type v) where
  op : Op
  before : State
  reply : Except Err (Reply op)
  after : State

/-- The program performs these events one after another, and the others move between them. -/
inductive Path (setting : Setting Op Reply Err State) :
    Prog Op Reply Err A → State → List (Event Op Reply Err State) →
      Prog Op Reply Err A → State → Prop where
  | stop (program : Prog Op Reply Err A) (state : State) : Path setting program state [] program state
  | perform {op : Op} {next : Except Err (Reply op) → Prog Op Reply Err A}
      {reply : Except Err (Reply op)} {start before after last : State}
      {trace : List (Event Op Reply Err State)} {residue : Prog Op Reply Err A}
      (others : setting.rely start before) (performed : setting.perform op before reply after)
      (rest : Path setting (next reply) after trace residue last) :
      Path setting (.ask op next) start (⟨op, before, reply, after⟩ :: trace) residue last

/-- The program goes on with this reply, and nothing happens before it. -/
theorem Path.reply (setting : Setting Op Reply Err State) (op : Op)
    {next : Except Err (Reply op) → Prog Op Reply Err A} {start after last : State}
    {trace : List (Event Op Reply Err State)} {residue : Prog Op Reply Err A}
    (answer : Except Err (Reply op)) (performed : setting.perform op start answer after)
    (rest : Path setting (next answer) after trace residue last) :
    Path setting (.ask op next) start (⟨op, start, answer, after⟩ :: trace) residue last :=
  .perform (setting.rely_refl start) performed rest

/-- A guarantee restricts every event that a program performs. -/
abbrev Guarantee (Op : Type u) (Reply : Op → Type) (Err : Type) (State : Type v) :=
  (op : Op) → State → Except Err (Reply op) → State → Prop

/-- Every event meets the guarantee, and the end meets the condition for its outcome. -/
def Sat (setting : Setting Op Reply Err State) (guarantee : Guarantee Op Reply Err State)
    (post : A → State → Prop) (raise : Err → State → Prop) :
    Prog Op Reply Err A → State → Prop
  | .done value, state => post value state
  | .fail error, state => raise error state
  | .halted, _ => True
  | .ask op next, state => ∀ before, setting.rely state before →
      ∀ reply after, setting.perform op before reply after →
        guarantee op before reply after ∧ Sat setting guarantee post raise (next reply) after

section Rules

variable {setting : Setting Op Reply Err State} {guarantee : Guarantee Op Reply Err State}
  {post : A → State → Prop} {raise : Err → State → Prop} {state : State}

/-- One call needs the guarantee and the condition for each reply. -/
theorem sat_call (op : Op) {post : Reply op → State → Prop}
    (resolves : ∀ before, setting.rely state before → ∀ value after,
      setting.perform op before (.ok value) after →
        guarantee op before (.ok value) after ∧ post value after)
    (rejects : ∀ before, setting.rely state before → ∀ error after,
      setting.perform op before (.error error) after →
        guarantee op before (.error error) after ∧ raise error after) :
    Sat setting guarantee post raise (Prog.call op) state := by
  intro before others reply after performed
  cases reply with
  | ok value => exact resolves before others value after performed
  | error error => exact rejects before others error after performed

/-- A call whose outcomes meet one condition. -/
theorem sat_call_reply (op : Op) (settled : Except Err (Reply op) → State → Prop)
    (answers : ∀ before, setting.rely state before → ∀ reply after, setting.perform op before reply after →
      guarantee op before reply after ∧ settled reply after) :
    Sat setting guarantee (fun value => settled (.ok value)) (fun error => settled (.error error))
      (Prog.call op) state :=
  sat_call op (fun before others value after performed => answers before others (.ok value) after performed)
    fun before others error after performed => answers before others (.error error) after performed

/-- The first program establishes what the second program needs. -/
theorem sat_bind {program : Prog Op Reply Err A} {continue_ : A → Prog Op Reply Err B}
    {post : B → State → Prop} (middle : A → State → Prop)
    (head : Sat setting guarantee middle raise program state)
    (tail : ∀ value reached, middle value reached →
      Sat setting guarantee post raise (continue_ value) reached) :
    Sat setting guarantee post raise (program >>= continue_) state := by
  induction program generalizing state with
  | done value => exact tail value state head
  | fail error => exact head
  | halted => trivial
  | ask op next ih =>
      intro before others reply after performed
      obtain ⟨meets, rest⟩ := head before others reply after performed
      exact ⟨meets, ih reply rest⟩

/-- A handler starts from the condition that the rejection leaves. -/
theorem sat_handle {program : Prog Op Reply Err A} {handler : Err → Prog Op Reply Err A}
    (caught : Err → State → Prop) (body : Sat setting guarantee post caught program state)
    (recovery : ∀ error reached, caught error reached →
      Sat setting guarantee post raise (handler error) reached) :
    Sat setting guarantee post raise (tryCatch program handler) state := by
  induction program generalizing state with
  | done value => exact body
  | fail error => exact recovery error state body
  | halted => trivial
  | ask op next ih =>
      intro before others reply after performed
      obtain ⟨meets, rest⟩ := body before others reply after performed
      exact ⟨meets, ih reply rest⟩

/-- An attempt returns what the program returns or how it rejects. -/
theorem sat_attempt {program : Prog Op Reply Err A}
    (body : Sat setting guarantee (fun value => post value) raise program state)
    {raise' : Err → State → Prop} :
    Sat setting guarantee (fun outcome reached => match outcome with
      | .ok value => post value reached
      | .error error => raise error reached) raise' program.attempt state :=
  sat_handle raise (sat_bind post body fun _ _ held => held) fun _ _ held => held

/-- An attempt whose outcome does not matter. -/
theorem sat_attempt_settled {program : Prog Op Reply Err A} (settled : State → Prop)
    (body : Sat setting guarantee (fun _ => settled) (fun _ => settled) program state)
    {raise' : Err → State → Prop} :
    Sat setting guarantee (fun _ => settled) raise' program.attempt state :=
  sat_handle (fun _ => settled) (sat_bind _ body fun _ _ held => held) fun _ _ held => held

/-- Weaker conditions hold as well. -/
theorem sat_mono {program : Prog Op Reply Err A} {guarantee' : Guarantee Op Reply Err State}
    {post' : A → State → Prop} {raise' : Err → State → Prop}
    (body : Sat setting guarantee post raise program state)
    (events : ∀ op before reply after, guarantee op before reply after → guarantee' op before reply after)
    (returned : ∀ value reached, post value reached → post' value reached)
    (rejected : ∀ error reached, raise error reached → raise' error reached) :
    Sat setting guarantee' post' raise' program state := by
  induction program generalizing state with
  | done value => exact returned value state body
  | fail error => exact rejected error state body
  | halted => trivial
  | ask op next ih =>
      intro before others reply after performed
      obtain ⟨meets, rest⟩ := body before others reply after performed
      exact ⟨events op before reply after meets, ih reply rest⟩

/-- Weaker results hold as well, and the operations are judged as before. -/
theorem sat_results {program : Prog Op Reply Err A} {post' : A → State → Prop} {raise' : Err → State → Prop}
    (body : Sat setting guarantee post raise program state)
    (returned : ∀ value reached, post value reached → post' value reached)
    (rejected : ∀ error reached, raise error reached → raise' error reached) :
    Sat setting guarantee post' raise' program state :=
  sat_mono body (fun _ _ _ _ met => met) returned rejected

/-- Two specifications of one program hold together. -/
theorem sat_and {program : Prog Op Reply Err A} {guarantee' : Guarantee Op Reply Err State}
    {post' : A → State → Prop} {raise' : Err → State → Prop}
    (first : Sat setting guarantee post raise program state)
    (second : Sat setting guarantee' post' raise' program state) :
    Sat setting
    (fun op before reply after => guarantee op before reply after ∧ guarantee' op before reply after)
      (fun value reached => post value reached ∧ post' value reached)
      (fun error reached => raise error reached ∧ raise' error reached) program state := by
  induction program generalizing state with
  | done value => exact ⟨first, second⟩
  | fail error => exact ⟨first, second⟩
  | halted => trivial
  | ask op next ih =>
      intro before others reply after performed
      obtain ⟨meets, rest⟩ := first before others reply after performed
      obtain ⟨meets', rest'⟩ := second before others reply after performed
      exact ⟨⟨meets, meets'⟩, ih reply rest rest'⟩

/-- The others cannot invalidate a program whose final conditions are stable. -/
theorem sat_stable {program : Prog Op Reply Err A} {later : State}
    (returned : ∀ value {first second}, setting.rely first second → post value first → post value second)
    (rejected : ∀ error {first second}, setting.rely first second → raise error first → raise error second)
    (body : Sat setting guarantee post raise program state) (others : setting.rely state later) :
    Sat setting guarantee post raise program later := by
  cases program with
  | done value => exact returned value others body
  | fail error => exact rejected error others body
  | halted => trivial
  | ask op next =>
      intro before further reply after performed
      exact body before (setting.rely_trans others further) reply after performed

/-- A program confined to harmless operations needs no further reasoning. -/
theorem sat_confined {inside : Op → Prop} {program : Prog Op Reply Err A}
    (confined : program.Confined inside)
    (harmless : ∀ op, inside op → ∀ before reply after,
      setting.perform op before reply after → guarantee op before reply after) :
    Sat setting guarantee (fun _ _ => True) (fun _ _ => True) program state := by
  induction program generalizing state with
  | done value => trivial
  | fail error => trivial
  | halted => trivial
  | ask op next ih =>
      intro before others reply after performed
      exact ⟨harmless op confined.1 before reply after performed, ih reply (confined.2 reply)⟩

/-- A program confined to operations that keep a stable condition keeps it. -/
theorem sat_keeps {inside : Op → Prop} (holds : State → Prop) {program : Prog Op Reply Err A}
    (confined : program.Confined inside)
    (stable : ∀ {first second}, setting.rely first second → holds first → holds second)
    (keeps : ∀ op, inside op → ∀ before reply after, setting.perform op before reply after → holds before →
      guarantee op before reply after ∧ holds after)
    (held : holds state) : Sat setting guarantee (fun _ => holds) (fun _ => holds) program state := by
  induction program generalizing state with
  | done value => exact held
  | fail error => exact held
  | halted => trivial
  | ask op next ih =>
      intro before others reply after performed
      have kept := keeps op confined.1 before reply after performed (stable others held)
      exact ⟨kept.1, ih reply (confined.2 reply) kept.2⟩

/-- What nobody can invalidate holds beside the conditions of a program. -/
theorem sat_frame {program : Prog Op Reply Err A} (holds : State → Prop)
    (body : Sat setting guarantee post raise program state)
    (stable : ∀ {first second}, setting.rely first second → holds first → holds second)
    (keeps : ∀ op before reply after, setting.perform op before reply after → holds before → holds after)
    (held : holds state) : Sat setting guarantee (fun value reached => post value reached ∧ holds reached)
      (fun error reached => raise error reached ∧ holds reached) program state := by
  induction program generalizing state with
  | done value => exact ⟨body, held⟩
  | fail error => exact ⟨body, held⟩
  | halted => trivial
  | ask op next ih =>
      intro before others reply after performed
      obtain ⟨meets, rest⟩ := body before others reply after performed
      exact ⟨meets, ih reply rest (keeps op before reply after performed (stable others held))⟩

/-- What a program returns in any state can be used beside its condition. -/
theorem sat_returns {program : Prog Op Reply Err A} {meets : A → Prop}
    (body : Sat setting guarantee post raise program state) (returns : program.Returns meets) :
    Sat setting guarantee (fun value reached => post value reached ∧ meets value) raise program state := by
  induction program generalizing state with
  | done value => exact ⟨body, returns⟩
  | fail error => exact body
  | halted => trivial
  | ask op next ih =>
      intro before others reply after performed
      obtain ⟨meets, rest⟩ := body before others reply after performed
      exact ⟨meets, ih reply rest (returns reply)⟩

end Rules

/-- Each event of a path meets the guarantee, and the residue still satisfies the conditions. -/
theorem sat_path {setting : Setting Op Reply Err State} {guarantee : Guarantee Op Reply Err State}
    {post : A → State → Prop} {raise : Err → State → Prop}
    {program residue : Prog Op Reply Err A} {start last : State}
    {trace : List (Event Op Reply Err State)}
    (path : Path setting program start trace residue last)
    (body : Sat setting guarantee post raise program start) :
    (∀ event ∈ trace, guarantee event.op event.before event.reply event.after) ∧
      Sat setting guarantee post raise residue last := by
  induction path with
  | stop program state => exact ⟨by simp, body⟩
  | perform others performed _ ih =>
      obtain ⟨meets, rest⟩ := body _ others _ _ performed
      obtain ⟨events, ending⟩ := ih rest
      refine ⟨fun event member => ?_, ending⟩
      rcases List.mem_cons.mp member with rfl | member
      · exact meets
      · exact events event member

/-- The program has returned or rejected. -/
def Prog.Ended : Prog Op Reply Err A → Prop
  | .done _ => True
  | .fail _ => True
  | _ => False

/-- What holds at both ends of a program holds where its paths end. -/
theorem sat_ended {setting : Setting Op Reply Err State} {guarantee : Guarantee Op Reply Err State}
    {holds : State → Prop} {program residue : Prog Op Reply Err A} {start last : State}
    {trace : List (Event Op Reply Err State)} (path : Path setting program start trace residue last)
    (body : Sat setting guarantee (fun _ => holds) (fun _ => holds) program start) (ended : residue.Ended) :
    holds last := by
  have rest := (sat_path path body).2
  cases residue with
  | done value => exact rest
  | fail error => exact rest
  | halted => exact ended.elim
  | ask op next => exact ended.elim

/-- Each event of a path was performed. -/
theorem Path.performed {setting : Setting Op Reply Err State} {program residue : Prog Op Reply Err A}
    {start last : State} {trace : List (Event Op Reply Err State)}
    (path : Path setting program start trace residue last) :
    ∀ event ∈ trace, setting.perform event.op event.before event.reply event.after := by
  induction path with
  | stop program state => simp
  | perform others performed _ ih =>
      intro event member
      rcases List.mem_cons.mp member with rfl | member
      · exact performed
      · exact ih event member

theorem Path.of_nil {setting : Setting Op Reply Err State} {program residue : Prog Op Reply Err A}
    {start last : State} (path : Path setting program start [] residue last) : residue = program := by
  cases path
  rfl

/-- A path stays one in a setting that allows more. -/
theorem Path.mono {setting larger : Setting Op Reply Err State} {program residue : Prog Op Reply Err A}
    {start last : State} {trace : List (Event Op Reply Err State)}
    (path : Path setting program start trace residue last)
    (performs : ∀ op before reply after, setting.perform op before reply after →
      larger.perform op before reply after)
    (relies : ∀ first second, setting.rely first second → larger.rely first second) :
    Path larger program start trace residue last := by
  induction path with
  | stop program state => exact .stop program state
  | perform others performed _ ih => exact .perform (relies _ _ others) (performs _ _ _ _ performed) ih

/-- A path is carried to larger states in which its operations do the same. -/
theorem Path.map {setting : Setting Op Reply Err State} {Larger : Type v}
    {larger : Setting Op Reply Err Larger}
    (embed : State → Larger) (performs : ∀ op before reply after, setting.perform op before reply after →
      larger.perform op (embed before) reply (embed after))
    (relies : ∀ first second, setting.rely first second → larger.rely (embed first) (embed second))
    {program residue : Prog Op Reply Err A} {start last : State} {trace : List (Event Op Reply Err State)}
    (path : Path setting program start trace residue last) :
    Path larger program (embed start) (trace.map fun event => ⟨event.op, embed event.before, event.reply,
      embed event.after⟩) residue (embed last) := by
  induction path with
  | stop program state => exact .stop program _
  | perform others performed _ ih => exact .perform (relies _ _ others) (performs _ _ _ _ performed) ih

/-- A path that returns is not caught. -/
theorem Path.handle {setting : Setting Op Reply Err State} {program : Prog Op Reply Err A}
    (handler : Err → Prog Op Reply Err A)
    {value : A} {start last : State} {trace : List (Event Op Reply Err State)}
    (path : Path setting program start trace (.done value) last) :
    Path setting (tryCatch program handler) start trace (.done value) last := by
  generalize ending : Prog.done value = residue at path
  induction path with
  | stop program state =>
      subst ending
      exact .stop _ _
  | perform others performed _ ih => exact .perform others performed (ih ending)

/-- The paths of two programs compose to a path of their sequence. -/
theorem Path.bind {setting : Setting Op Reply Err State} {program : Prog Op Reply Err A}
    {continue_ : A → Prog Op Reply Err B} {residue : Prog Op Reply Err B} {value : A}
    {start middle last : State}
    {trace rest : List (Event Op Reply Err State)}
    (head : Path setting program start trace (.done value) middle)
    (tail : Path setting (continue_ value) middle rest residue last) :
    Path setting (program >>= continue_) start (trace ++ rest) residue last := by
  generalize finished : Prog.done value = ending at head
  induction head with
  | stop program state =>
      subst finished
      exact tail
  | perform others performed _ ih => exact .perform others performed (ih tail finished)

/-- An attempt of a program that returns returns its value. -/
theorem Path.attempt {setting : Setting Op Reply Err State} {program : Prog Op Reply Err A} {value : A}
    {start last : State} {trace : List (Event Op Reply Err State)}
    (path : Path setting program start trace (.done value) last) :
    Path setting program.attempt start trace (.done (.ok value)) last := by
  have returned :
      Path setting (program >>= fun value => pure (Except.ok value : Except Err A)) start (trace ++ [])
      (.done (.ok value)) last := Path.bind path (.stop _ _)
  rw [List.append_nil] at returned
  exact returned.handle _

/-- A path of a sequence is a path of the first program, or one that returns and then a path of the second. -/
theorem Path.bind_cases {setting : Setting Op Reply Err State} {program : Prog Op Reply Err A}
    {continue_ : A → Prog Op Reply Err B} {residue : Prog Op Reply Err B} {start last : State}
    {trace : List (Event Op Reply Err State)}
    (path : Path setting (program >>= continue_) start trace residue last) :
    (∃ rest, Path setting program start trace rest last ∧ residue = rest >>= continue_) ∨
      ∃ value front back middle, trace = front ++ back ∧
      Path setting program start front (.done value) middle ∧
        Path setting (continue_ value) middle back residue last := by
  induction program generalizing start trace with
  | done value => exact .inr ⟨value, [], trace, start, rfl, .stop _ _, path⟩
  | fail error =>
      cases path with
      | stop => exact .inl ⟨.fail error, .stop _ _, rfl⟩
  | halted =>
      cases path with
      | stop => exact .inl ⟨.halted, .stop _ _, rfl⟩
  | ask op next ih =>
      cases path with
      | stop => exact .inl ⟨.ask op next, .stop _ _, rfl⟩
      | perform others performed path =>
          rcases ih _ path with ⟨rest, early, rfl⟩ | ⟨value, front, back, middle, rfl, early, late⟩
          · exact .inl ⟨rest, .perform others performed early, rfl⟩
          · exact .inr ⟨value, _ :: front, back, middle, rfl, .perform others performed early, late⟩

/-- A path of a guarded program is a path of its body, or one that rejects and then a path of the handler. -/
theorem Path.handle_cases {setting : Setting Op Reply Err State} {program residue : Prog Op Reply Err A}
    {handler : Err → Prog Op Reply Err A} {start last : State} {trace : List (Event Op Reply Err State)}
    (path : Path setting (tryCatch program handler) start trace residue last) :
    (∃ rest, Path setting program start trace rest last ∧ residue = tryCatch rest handler) ∨
      ∃ error front back middle, trace = front ++ back ∧
      Path setting program start front (.fail error) middle ∧
        Path setting (handler error) middle back residue last := by
  induction program generalizing start trace with
  | done value =>
      cases path with
      | stop => exact .inl ⟨.done value, .stop _ _, rfl⟩
  | fail error => exact .inr ⟨error, [], trace, start, rfl, .stop _ _, path⟩
  | halted =>
      cases path with
      | stop => exact .inl ⟨.halted, .stop _ _, rfl⟩
  | ask op next ih =>
      cases path with
      | stop => exact .inl ⟨.ask op next, .stop _ _, rfl⟩
      | perform others performed path =>
          rcases ih _ path with ⟨rest, early, rfl⟩ | ⟨error, front, back, middle, rfl, early, late⟩
          · exact .inl ⟨rest, .perform others performed early, rfl⟩
          · exact .inr ⟨error, _ :: front, back, middle, rfl, .perform others performed early, late⟩

/-- A path that starts with a call stops before it, goes on with its value, or ends with its rejection. -/
theorem Path.call_cases {setting : Setting Op Reply Err State} {op : Op}
    {continue_ : Reply op → Prog Op Reply Err B}
    {residue : Prog Op Reply Err B} {start last : State} {trace : List (Event Op Reply Err State)}
    (path : Path setting (Prog.call op >>= continue_) start trace residue last) :
    (trace = [] ∧ residue = Prog.call op >>= continue_) ∨
      (∃ before value after rest, trace = ⟨op, before, .ok value, after⟩ :: rest ∧
        Path setting (continue_ value) after rest residue last) ∨
      ∃ before error, trace = [⟨op, before, .error error, last⟩] ∧ residue = .fail error := by
  change Path setting (.ask op fun reply => _) start trace residue last at path
  cases path with
  | stop => exact .inl ⟨rfl, rfl⟩
  | @perform _ _ reply _ before after _ trace _ others performed rest =>
      cases reply with
      | ok value => exact .inr (.inl ⟨before, value, after, trace, rfl, rest⟩)
      | error error =>
          cases rest with
          | stop => exact .inr (.inr ⟨before, error, rfl, rfl⟩)

/-- The last event of a path leads to its residue. -/
theorem path_leads {setting : Setting Op Reply Err State} {program residue : Prog Op Reply Err A}
    {holds : (op : Op) → Except Err (Reply op) → Prog Op Reply Err A → Prop} {start last : State}
    {front : List (Event Op Reply Err State)} {event : Event Op Reply Err State}
    (path : Path setting program start (front ++ [event]) residue last) (leads : program.Leads holds) :
    holds event.op event.reply residue := by
  induction front generalizing program start with
  | nil =>
      cases path with
      | perform others performed rest =>
          rw [rest.of_nil]
          exact (leads _).1
  | cons first front ih =>
      cases path with
      | perform others performed rest => exact ih rest (leads _).2

/-- What follows each event holds of the program after it, which performs the rest of the path. -/
theorem path_cut {setting : Setting Op Reply Err State} {program residue : Prog Op Reply Err A}
    {holds : (op : Op) → Except Err (Reply op) → Prog Op Reply Err A → Prop} {start last : State}
    {front back : List (Event Op Reply Err State)} {event : Event Op Reply Err State}
    (path : Path setting program start (front ++ event :: back) residue last) (leads : program.Leads holds) :
    ∃ rest, holds event.op event.reply rest ∧ Path setting rest event.after back residue last := by
  induction front generalizing program start with
  | nil =>
      cases path with
      | perform others performed rest => exact ⟨_, (leads _).1, rest⟩
  | cons first front ih =>
      cases path with
      | perform others performed rest => exact ih rest (leads _).2

/-- A program satisfies the conditions that its own paths define. -/
theorem sat_paths {setting : Setting Op Reply Err State} (program : Prog Op Reply Err A) (start : State) :
    Sat setting (fun _ _ _ _ => True)
      (fun value last => ∃ trace, Path setting program start trace (.done value) last)
      (fun error last => ∃ trace, Path setting program start trace (.fail error) last) program start := by
  induction program generalizing start with
  | done value => exact ⟨[], .stop _ _⟩
  | fail error => exact ⟨[], .stop _ _⟩
  | halted => trivial
  | ask op next ih =>
      intro before others reply after performed
      refine ⟨trivial, sat_mono (ih reply after) (fun _ _ _ _ _ => trivial) ?_ ?_⟩
      · rintro value last ⟨trace, path⟩
        exact ⟨_, .perform others performed path⟩
      · rintro error last ⟨trace, path⟩
        exact ⟨_, .perform others performed path⟩

/-- Without conditions there is nothing to prove about a program. -/
theorem sat_trivial {setting : Setting Op Reply Err State} (program : Prog Op Reply Err A) (start : State) :
    Sat setting (fun _ _ _ _ => True) (fun _ _ => True) (fun _ _ => True) program start :=
  sat_mono (sat_paths program start) (fun _ _ _ _ _ => trivial) (fun _ _ _ => trivial) fun _ _ _ => trivial

section Recorded

/-- The recorded setting keeps the performed events beside the state. -/
def Setting.recorded (setting : Setting Op Reply Err State) :
    Setting Op Reply Err (State × List (Event Op Reply Err State)) where
  perform op before reply after := setting.perform op before.1 reply after.1 ∧
    after.2 = before.2 ++ [⟨op, before.1, reply, after.1⟩]
  rely first second := setting.rely first.1 second.1 ∧ second.2 = first.2
  rely_refl state := ⟨setting.rely_refl state.1, rfl⟩
  rely_trans first second :=
    ⟨setting.rely_trans first.1 second.1, second.2.trans first.2⟩

variable {setting : Setting Op Reply Err State}
  {guarantee : Guarantee Op Reply Err (State × List (Event Op Reply Err State))}
  {post : A → State × List (Event Op Reply Err State) → Prop}
  {raise : Err → State × List (Event Op Reply Err State) → Prop}

/-- A recorded call appends its event to the history. -/
theorem sat_recorded_call (op : Op) {start : State} {history : List (Event Op Reply Err State)}
    {post : Reply op → State × List (Event Op Reply Err State) → Prop}
    (resolves : ∀ before, setting.rely start before → ∀ value after,
      setting.perform op before (.ok value) after →
        guarantee op (before, history) (.ok value) (after, history ++ [⟨op, before, .ok value, after⟩]) ∧
        post value (after, history ++ [⟨op, before, .ok value, after⟩]))
    (rejects : ∀ before, setting.rely start before → ∀ error after,
      setting.perform op before (.error error) after →
        guarantee op (before, history) (.error error)
          (after, history ++ [⟨op, before, .error error, after⟩]) ∧
        raise error (after, history ++ [⟨op, before, .error error, after⟩])) :
    Sat setting.recorded guarantee post raise (Prog.call op) (start, history) := by
  refine sat_call op ?_ ?_
  · rintro ⟨before, past⟩ ⟨others, same⟩ value ⟨after, extended⟩ ⟨performed, added⟩
    obtain rfl : past = history := same
    obtain rfl : extended = past ++ [⟨op, before, .ok value, after⟩] := added
    exact resolves before others value after performed
  · rintro ⟨before, past⟩ ⟨others, same⟩ error ⟨after, extended⟩ ⟨performed, added⟩
    obtain rfl : past = history := same
    obtain rfl : extended = past ++ [⟨op, before, .error error, after⟩] := added
    exact rejects before others error after performed

/-- A recorded attempt of one call appends its event and returns the reply. -/
theorem sat_recorded_attempt (op : Op) {start : State} {history : List (Event Op Reply Err State)}
    {post : Except Err (Reply op) → State × List (Event Op Reply Err State) → Prop}
    (answers : ∀ before, setting.rely start before → ∀ reply after, setting.perform op before reply after →
      guarantee op (before, history) reply (after, history ++ [⟨op, before, reply, after⟩]) ∧
        post reply (after, history ++ [⟨op, before, reply, after⟩])) :
    Sat setting.recorded guarantee post raise (Prog.call op).attempt (start, history) := by
  rintro ⟨before, past⟩ ⟨others, same⟩ reply ⟨after, extended⟩ ⟨performed, added⟩
  obtain rfl : past = history := same
  obtain rfl : extended = past ++ [⟨op, before, reply, after⟩] := added
  obtain ⟨meets, reached⟩ := answers before others reply after performed
  cases reply with
  | ok value => exact ⟨meets, reached⟩
  | error error => exact ⟨meets, reached⟩

/-- Events that keep a property of the history keep it along the recorded program. -/
theorem sat_recorded {guarantee : Guarantee Op Reply Err State} {post : A → State → Prop}
    {raise : Err → State → Prop} {program : Prog Op Reply Err A} {start : State}
    (holds : List (Event Op Reply Err State) → Prop) {history : List (Event Op Reply Err State)}
    (keeps : ∀ {past op before reply after}, holds past → guarantee op before reply after →
      holds (past ++ [⟨op, before, reply, after⟩]))
    (body : Sat setting guarantee post raise program start) (initially : holds history) :
    Sat setting.recorded (fun op before reply after => holds before.2 ∧ guarantee op before.1 reply after.1)
      (fun value reached => post value reached.1 ∧ holds reached.2)
      (fun error reached => raise error reached.1 ∧ holds reached.2) program (start, history) := by
  induction program generalizing start history with
  | done value => exact ⟨body, initially⟩
  | fail error => exact ⟨body, initially⟩
  | halted => trivial
  | ask op next ih =>
      rintro ⟨before, past⟩ ⟨others, same⟩ reply ⟨after, extended⟩ ⟨performed, added⟩
      change past = history at same
      change extended = past ++ [⟨op, before, reply, after⟩] at added
      subst past extended
      obtain ⟨meets, rest⟩ := body before others reply after performed
      exact ⟨⟨initially, meets⟩, ih reply rest (keeps initially meets)⟩

/-- No program forgets a recorded event. -/
theorem sat_recorded_remembers {setting : Setting Op Reply Err State}
    {meets : Event Op Reply Err State → Prop}
    {history : List (Event Op Reply Err State)} (program : Prog Op Reply Err A) (start : State)
    (held : ∃ event ∈ history, meets event) :
    Sat setting.recorded (fun _ _ _ _ => True) (fun _ reached => ∃ event ∈ reached.2, meets event)
      (fun _ reached => ∃ event ∈ reached.2, meets event) program (start, history) := by
  have traced : Sat setting _ _ _ program start := sat_trivial program start
  have body := sat_recorded (fun past => ∃ event ∈ past, meets event) (fun past _ => by
    obtain ⟨event, member, met⟩ := past
    exact ⟨event, List.mem_append_left _ member, met⟩) traced held
  exact sat_mono body (fun _ _ _ _ _ => trivial) (fun _ _ => And.right) (fun _ _ => And.right)

/-- A recorded condition speaks about every prefix of a trace. -/
theorem sat_recorded_path {program residue : Prog Op Reply Err A} {start last : State}
    {trace : List (Event Op Reply Err State)} (path : Path setting program start trace residue last)
    (history : List (Event Op Reply Err State))
    (body : Sat setting.recorded guarantee post raise program (start, history)) :
    (∀ front event back, trace = front ++ event :: back →
      guarantee event.op (event.before, history ++ front) event.reply
        (event.after, history ++ front ++ [event])) ∧
      Sat setting.recorded guarantee post raise residue (last, history ++ trace) := by
  induction path generalizing history with
  | stop program state => exact ⟨by simp, by simpa using body⟩
  | @perform op next reply start before after last trace residue others performed _ ih =>
      have step := body (before, history) ⟨others, rfl⟩ reply
        (after, history ++ [⟨op, before, reply, after⟩]) ⟨performed, rfl⟩
      obtain ⟨events, ending⟩ := ih _ step.2
      constructor
      · intro front event back split
        cases front with
        | nil =>
            obtain ⟨rfl, rfl⟩ := List.cons.inj split
            simpa using step.1
        | cons head front =>
            obtain ⟨rfl, rfl⟩ := List.cons.inj split
            simpa using events front event back rfl
      · simpa using ending

/-- The restricted setting allows only the operations that meet the condition. -/
def Setting.restrict (setting : Setting Op Reply Err State) (meets : Guarantee Op Reply Err State) :
    Setting Op Reply Err State where
  perform op before reply after := setting.perform op before reply after ∧ meets op before reply after
  rely := setting.rely
  rely_refl := setting.rely_refl
  rely_trans := setting.rely_trans

/-- What a program satisfies under a condition on each event and its history holds at the end of such a
path. -/
theorem sat_restrict_path {meets : Guarantee Op Reply Err (State × List (Event Op Reply Err State))}
    {program residue : Prog Op Reply Err A} {start last : State} {trace : List (Event Op Reply Err State)}
    (path : Path setting program start trace residue last) (history : List (Event Op Reply Err State))
    (met : ∀ front event back, trace = front ++ event :: back →
      meets event.op (event.before, history ++ front) event.reply (event.after, history ++ front ++ [event]))
    (body : Sat (setting.recorded.restrict meets) guarantee post raise program (start, history)) :
    Sat (setting.recorded.restrict meets) guarantee post raise residue (last, history ++ trace) := by
  induction path generalizing history with
  | stop program state => simpa using body
  | @perform op next reply start before after last trace residue others performed _ ih =>
      have allowed := met [] _ _ rfl
      rw [List.append_nil] at allowed
      have step := body (before, history) ⟨others, rfl⟩ reply
        (after, history ++ [⟨op, before, reply, after⟩]) ⟨⟨performed, rfl⟩, allowed⟩
      have ending := ih _ (fun front event back split => by
        simpa using met (⟨op, before, reply, after⟩ :: front) event back (by rw [split]; rfl)) step.2
      simpa using ending

end Recorded

end CeramicAnchor.Concurrency
