import CeramicAnchor.Construction.RequestRepository
import CeramicAnchor.Concurrency.Pool

/-
This file proves when concurrent calls of the batch claim return disjoint lists.
-/

namespace CeramicAnchor.RequestRepository
open Concurrency Storage

abbrev RequestDatabase := Database Request String requestColumns

abbrev ClaimPool := Pool (RowOp Request String requestColumns) RowOp.Reply Failure (List Request)
  RequestDatabase

/-- Each thread makes one call with its own limit, and the database resolves every request. -/
def claimSystem (limits : Nat → Nat) : System (RowOp Request String requestColumns) RowOp.Reply Failure
    (List Request) RequestDatabase where
  entry thread program := program = batchProcessing (limits thread)
  perform thread op before reply after :=
    ∃ value, reply = .ok value ∧ op.Resolves Request.id thread before value after
  drift := Database.Drifts

/-- The update finds the row that it locks still ready. -/
def FindsReady (before : RequestDatabase) (label : Label (RowOp Request String requestColumns)
    RowOp.Reply Failure) : Prop :=
  ∀ thread id edit reply, label = .act thread (.lock id edit) reply →
    ∃ row, before.committed.lookup Request.id id = some row ∧ row.status = .READY

/-- Every returned row went from READY to PROCESSING in the call that returns it, and every row that changed
is one of them. -/
structure ExclusiveClaim (limits : Nat → Nat) (table : RequestTable) (pool : ClaimPool) : Prop where
  disjoint : ∀ first second rows others, first ≠ second → pool.threads first = some (.done rows) →
    pool.threads second = some (.done others) → ∀ row ∈ rows, ∀ other ∈ others, row.id ≠ other.id
  bounded : ∀ thread rows, pool.threads thread = some (.done rows) → 0 < limits thread →
    rows.length ≤ limits thread
  moved : ∀ thread rows, pool.threads thread = some (.done rows) → ∀ row ∈ rows,
    (∃ old ∈ table.rows, old.status = .READY ∧ row = { old with status := .PROCESSING }) ∧
      row ∈ pool.world.committed.rows ∧ (pool.world.stamps row.id).writer = some thread
  unchanged : ∀ id, pool.world.committed.lookup Request.id id ≠ table.lookup Request.id id →
    ∃ thread rows, pool.threads thread = some (.done rows) ∧ ∃ row ∈ rows, row.id = id

/-- The row is ready at the start. -/
def ReadyAtFirst (table : RequestTable) (id : String) (old : Request) : Prop :=
  table.lookup Request.id id = some old ∧ old.status = .READY

/-- Each row is untouched, or one call has claimed it. -/
structure Claims (table : RequestTable) (world : RequestDatabase) : Prop where
  sound : world.Sound Request.id
  plain : ∀ thread session, world.sessions thread = some session →
    ∀ item ∈ session.pending, item.2 = claimEdit
  unclaimed : ∀ thread session, world.sessions thread = some session → ∀ id ∈ session.locked,
    (world.stamps id).writer = none ∧ ∃ old, ReadyAtFirst table id old
  untouched : ∀ id, (world.stamps id).writer = none →
    world.committed.lookup Request.id id = table.lookup Request.id id
  claimed : ∀ id thread, (world.stamps id).writer = some thread → ∃ old, ReadyAtFirst table id old ∧
    world.committed.lookup Request.id id = some (claimEdit.apply old)

theorem Claims.opened (table : RequestTable) (clock : Int) : Claims table (Database.opened table clock) where
  sound := Database.opened_sound table clock
  plain := by simp [Database.opened]
  unclaimed := by simp [Database.opened]
  untouched := fun _ _ => rfl
  claimed := by simp [Database.opened]

theorem Claims.drifts {table : RequestTable} {world later : RequestDatabase} (claims : Claims table world)
    (moved : world.Drifts later) : Claims table later := by
  have sound := claims.sound.drifts moved
  obtain ⟨clock, passed, rfl⟩ := moved
  exact ⟨sound, claims.plain, claims.unclaimed, claims.untouched, claims.claimed⟩

/-- A row that is still ready has no writer. -/
theorem Claims.ready {table : RequestTable} {world : RequestDatabase} (claims : Claims table world)
    {id : String} {row : Request} (found : world.committed.lookup Request.id id = some row)
    (ready : row.status = .READY) : (world.stamps id).writer = none ∧ ReadyAtFirst table id row := by
  cases written : (world.stamps id).writer with
  | none => exact ⟨rfl, by rw [← claims.untouched id written]; exact found, ready⟩
  | some thread =>
      obtain ⟨old, _, now⟩ := claims.claimed id thread written
      rw [found] at now
      obtain rfl := Option.some.inj now
      cases ready

theorem Claims.withSession {table : RequestTable} {world : RequestDatabase} (claims : Claims table world)
    {thread : Nat} {session : Option (Session Request String requestColumns)}
    (sound : (world.withSession thread session).Sound Request.id)
    (plain : ∀ current ∈ session, ∀ item ∈ current.pending, item.2 = claimEdit)
    (unclaimed : ∀ current ∈ session, ∀ id ∈ current.locked,
      (world.stamps id).writer = none ∧ ∃ old, ReadyAtFirst table id old) :
    Claims table (world.withSession thread session) where
  sound := sound
  plain other current := by
    rw [Database.sessions_withSession]
    split
    · exact plain current
    · exact claims.plain other current
  unclaimed other current := by
    rw [Database.sessions_withSession]
    split
    · exact unclaimed current
    · exact claims.unclaimed other current
  untouched := claims.untouched
  claimed := claims.claimed

/-- A batch of claims claims each of its rows once. -/
theorem batch_claims {pending : Pending Request String requestColumns}
    (plain : ∀ item ∈ pending, item.2 = claimEdit) (row : Request) :
    (Edit.batch Request.id pending).apply row =
      if row.id ∈ pending.map Prod.fst then claimEdit.apply row else row := by
  have folded : ∀ (items : Pending Request String requestColumns), (∀ item ∈ items, item.2 = claimEdit) →
      ∀ current : Request, items.foldl (fun current item =>
        if row.id = item.1 then item.2.apply current else current) current =
        if row.id ∈ items.map Prod.fst then claimEdit.apply current else current := by
    intro items
    induction items with
    | nil => exact fun _ _ => rfl
    | cons item items ih =>
        intro plain current
        rw [List.foldl_cons, ih (fun other member => plain other (List.mem_cons_of_mem _ member))]
        have same := plain item List.mem_cons_self
        by_cases here : row.id = item.1 <;> by_cases later : row.id ∈ items.map Prod.fst <;>
          simp [here, later, same, claimEdit]
  exact folded pending plain row

/-- The commit of a call stamps the rows that it has locked. -/
theorem Claims.publish {table : RequestTable} {world : RequestDatabase} (claims : Claims table world)
    {thread : Nat} {session : Session Request String requestColumns}
    (current : world.sessions thread = some session) :
    Claims table (world.publish Request.id thread session) := by
  have sound := claims.sound.publish id_indexed current
  have remaining : ∀ other rival, (world.publish Request.id thread session).sessions other = some rival →
      other ≠ thread ∧ world.sessions other = some rival := by
    intro other rival running
    change Function.update world.sessions thread none other = some rival at running
    rw [Function.update_apply] at running
    split at running
    · cases running
    · exact ⟨by assumption, running⟩
  have stamped : ∀ id, (world.publish Request.id thread session).stamps id =
      if id ∈ session.locked then ⟨world.commits, some thread⟩ else world.stamps id := fun _ => rfl
  constructor
  case sound => exact sound
  case plain =>
    intro other rival running
    exact claims.plain other rival (remaining other rival running).2
  case unclaimed =>
    intro other rival running id member
    obtain ⟨different, before⟩ := remaining other rival running
    have apart : id ∉ session.locked := fun shared =>
      claims.sound.exclusive thread session current id shared ⟨other, rival, different, before, member⟩
    rw [stamped, if_neg apart]
    exact claims.unclaimed other rival before id member
  case untouched =>
    intro id written
    rw [stamped] at written
    split at written
    · cases written
    · rename_i absent
      exact (Table.lookup_publish_of_notMem id_indexed absent).trans (claims.untouched id written)
  case claimed =>
    intro id writer written
    rw [stamped] at written
    change ∃ old, ReadyAtFirst table id old ∧
      (world.committed.publish Request.id session.pending).lookup Request.id id = _
    split at written
    · rename_i member
      obtain ⟨unwritten, old, atFirst⟩ := claims.unclaimed thread session current id member
      refine ⟨old, atFirst, ?_⟩
      have same : old.id = id := (Table.lookup_mem atFirst.1).2
      rw [Table.lookup_publish id_indexed, claims.untouched id unwritten, atFirst.1, Option.map_some,
        batch_claims (claims.plain thread session current), same]
      exact congrArg some (if_pos member)
    · rename_i absent
      obtain ⟨old, atFirst, now⟩ := claims.claimed id writer written
      exact ⟨old, atFirst, (Table.lookup_publish_of_notMem id_indexed absent).trans now⟩

section Calls

variable (limits : Nat → Nat) (table : RequestTable)

/-- The others keep the session of a call, and they write no row in its name. -/
structure ClaimRely (thread : Nat) (first second : RequestDatabase) : Prop where
  claims : Claims table first → Claims table second
  session : second.sessions thread = first.sessions thread
  written : ∀ id, (second.stamps id).writer = some thread ↔ (first.stamps id).writer = some thread

/-- The returned rows are the ones that the call has written. -/
structure Returned (thread : Nat) (rows : List Request) (world : RequestDatabase) : Prop where
  written : ∀ id, (world.stamps id).writer = some thread ↔ id ∈ rows.map Request.id
  bounded : 0 < limits thread → rows.length ≤ limits thread
  claimed : ∀ row ∈ rows, ∃ old, ReadyAtFirst table row.id old ∧ row = claimEdit.apply old

/-- A call that has not begun has no session and has written nothing. -/
structure Unclaiming (thread : Nat) (world : RequestDatabase) : Prop where
  free : world.sessions thread = none
  unwritten : ∀ id, (world.stamps id).writer ≠ some thread

def claimDiscipline : Discipline ((claimSystem limits).restrict FindsReady) where
  rely := ClaimRely table
  rely_refl _ _ := ⟨id, rfl, fun _ => Iff.rfl⟩
  rely_trans first second := ⟨second.claims ∘ first.claims, second.session.trans first.session,
    fun id => (second.written id).trans (first.written id)⟩
  guarantee thread _ before _ after :=
    (Claims table before → Claims table after) ∧ ∀ other, other ≠ thread → ClaimRely table other before after
  dormant := Unclaiming
  post := Returned limits table
  dormant_stable rely dormant := ⟨rely.session.trans dormant.free,
    fun id written => dormant.unwritten id ((rely.written id).mp written)⟩
  post_stable rely post := ⟨fun id => (rely.written id).trans (post.written id), post.bounded, post.claimed⟩
  sound different _ guarantee := guarantee.2 _ different
  drifts := by
    intro thread before after moved
    refine ⟨fun claims => claims.drifts moved, ?_, ?_⟩ <;> obtain ⟨later, passed, rfl⟩ := moved
    · rfl
    · exact fun _ => Iff.rfl

variable {limits table}

/-- The call holds the locks of these rows and has committed nothing. -/
structure Holding (table : RequestTable) (thread : Nat) (keys : List String) (world : RequestDatabase) :
    Prop where
  claims : Claims table world
  unwritten : ∀ id, (world.stamps id).writer ≠ some thread
  session : ∃ session, world.sessions thread = some session ∧ session.locked = keys ∧
    session.isolation = .readCommitted

theorem Holding.stable {thread : Nat} {keys : List String} {first second : RequestDatabase}
    (holding : Holding table thread keys first) (rely : ClaimRely table thread first second) :
    Holding table thread keys second := by
  obtain ⟨session, current, held⟩ := holding.session
  exact ⟨rely.claims holding.claims, fun id written => holding.unwritten id ((rely.written id).mp written),
    session, rely.session.trans current, held⟩

/-- A change of one session is invisible to the other calls. -/
theorem claimRely_withSession {thread : Nat} {world : RequestDatabase}
    {session : Option (Session Request String requestColumns)}
    (claims : Claims table (world.withSession thread session)) :
    (Claims table world → Claims table (world.withSession thread session)) ∧
      ∀ other, other ≠ thread → ClaimRely table other world (world.withSession thread session) :=
  ⟨fun _ => claims, fun _ different => ⟨fun _ => claims, Function.update_of_ne different _ _,
    fun _ => Iff.rfl⟩⟩

theorem lockAll_claims {thread : Nat} {keys targets : List String} {world : RequestDatabase}
    (holding : Holding table thread keys world) :
    Sat ((claimDiscipline limits table).setting thread) ((claimDiscipline limits table).guarantee thread)
      (fun rows reached => Holding table thread (keys ++ targets) reached ∧ rows.map Request.id = targets ∧
        ∀ row ∈ rows, ∃ old, ReadyAtFirst table row.id old ∧ row = claimEdit.apply old)
      (fun _ _ => True) (lockAll claimEdit targets) world := by
  induction targets generalizing keys world with
  | nil =>
      refine ⟨?_, rfl, by simp⟩
      rw [List.append_nil]
      exact holding
  | cons target rest ih =>
      refine sat_bind (fun row reached => Holding table thread (keys ++ [target]) reached ∧
        row.id = target ∧ ∃ old, ReadyAtFirst table row.id old ∧ row = claimEdit.apply old)
        (sat_call (RowOp.lock target claimEdit) ?_ (fun _ _ _ _ _ => ⟨?_, trivial⟩)) ?_
      · intro before rely row after performed
        have holdingNow := holding.stable rely
        have claims := holdingNow.claims
        obtain ⟨⟨value, same, session, old, current, unlocked, fresh, found, rfl, rfl⟩, ready⟩ := performed
        obtain rfl := Except.ok.inj same
        obtain ⟨original, present, isReady⟩ := ready thread target claimEdit _ rfl
        obtain ⟨unwritten, atFirst⟩ := claims.ready present isReady
        have sound := claims.sound.move id_indexed (.held target claimEdit current unlocked fresh)
        have claimsNext : Claims table
            (before.withSession thread (some (session.write target claimEdit))) := by
          refine claims.withSession sound ?_ ?_
          · rintro _ ⟨⟩ item member
            rcases List.mem_append.mp member with member | member
            · exact claims.plain thread session current item member
            · rw [List.mem_singleton.mp member]
          · rintro _ ⟨⟩ id member
            rw [Session.locked_write, List.mem_append, List.mem_singleton] at member
            rcases member with member | rfl
            · exact claims.unclaimed thread session current id member
            · exact ⟨unwritten, original, atFirst⟩
        have claimedRow : claimEdit.apply old = claimEdit.apply original := by
          rw [Table.lookup_publish id_indexed, present, Option.map_some,
            batch_claims (claims.plain thread session current)] at found
          obtain rfl := Option.some.inj found
          split <;> rfl
        have sameId : original.id = target := (Table.lookup_mem present).2
        obtain ⟨held, now, locked, isolated⟩ := holdingNow.session
        obtain rfl := Option.some.inj (current.symm.trans now)
        refine ⟨claimRely_withSession claimsNext, ⟨claimsNext, holdingNow.unwritten, _,
          Function.update_self .., ?_, isolated⟩, ?_, original, ?_, claimedRow⟩
        · rw [Session.locked_write, locked]
        · rw [claimedRow]
          exact sameId
        · rw [claimedRow]
          exact sameId ▸ atFirst
      · rename_i before rely error after performed
        obtain ⟨⟨value, same, _⟩, _⟩ := performed
        cases same
      · rintro row reached ⟨holdingNow, sameId, claimed⟩
        refine sat_bind _ (ih holdingNow) ?_
        rintro rows last ⟨holdingLast, ids, all⟩
        refine ⟨?_, ?_, ?_⟩
        · simpa using holdingLast
        · rw [List.map_cons, sameId, ids]
        · intro member inRows
          rcases List.mem_cons.mp inRows with rfl | inRows
          · exact claimed
          · exact all member inRows

/-- A request that is never rejected. -/
theorem never_rejected {thread : Nat} {op : RowOp Request String requestColumns} {before : RequestDatabase}
    {error : Failure} {after : RequestDatabase} {P : Prop}
    (performed : ((claimDiscipline limits table).setting thread).perform op before (.error error) after) :
    P := by
  obtain ⟨⟨value, same, _⟩, _⟩ := performed
  cases same

theorem chosen_length (limit : Nat) (ready : List Request) (positive : 0 < limit) :
    (if 0 < limit then ready.take limit else ready).length ≤ limit := by
  rw [if_pos positive, List.length_take]
  omega

theorem batchProcessing_sat {thread : Nat} {world : RequestDatabase} (claims : Claims table world)
    (dormant : Unclaiming thread world) :
    (claimDiscipline limits table).Safe thread (batchProcessing (limits thread)) world := by
  refine sat_bind (fun _ reached => Holding table thread [] reached)
    (sat_call (RowOp.begin .readCommitted) ?_ fun _ _ _ _ performed => never_rejected performed) ?_
  · intro before rely _ after performed
    obtain ⟨⟨_, _, free, rfl⟩, _⟩ := performed
    have claimsNow := rely.claims claims
    have entered := claimsNow.sound.move id_indexed (.entered .readCommitted free)
    have claimsNext := claimsNow.withSession entered
      (by rintro _ ⟨⟩ item member; cases member) (by rintro _ ⟨⟩ id member; cases member)
    refine ⟨claimRely_withSession claimsNext, claimsNext, fun id written => ?_, _,
      Function.update_self .., rfl, rfl⟩
    exact dormant.unwritten id ((rely.written id).mp written)
  intro _ reached holding
  refine sat_bind (fun _ last => Holding table thread [] last)
    (sat_call (RowOp.select fun request => request.status = .READY) ?_
      fun _ _ _ _ performed => never_rejected performed) ?_
  · intro before rely rows after performed
    obtain ⟨⟨value, same, session, current, _, rfl⟩, _⟩ := performed
    have holdingNow := holding.stable rely
    have claims := holdingNow.claims
    have sound := claims.sound.move id_indexed (.read value current)
    have claimsNext := claims.withSession sound
      (by rintro _ ⟨⟩; exact claims.plain thread session current)
      (by rintro _ ⟨⟩; exact claims.unclaimed thread session current)
    obtain ⟨held, now, locked, isolated⟩ := holdingNow.session
    obtain rfl := Option.some.inj (current.symm.trans now)
    exact ⟨claimRely_withSession claimsNext, claimsNext, holdingNow.unwritten, _,
      Function.update_self .., locked, isolated⟩
  intro ready selected holdingSelected
  refine sat_bind _ (lockAll_claims holdingSelected) ?_
  intro rows locked held
  obtain ⟨holdingLocked, ids, claimed⟩ := held
  have bounded : 0 < limits thread → rows.length ≤ limits thread := by
    intro positive
    have short := chosen_length (limits thread) ready positive
    have same := congrArg List.length ids
    rw [List.length_map, List.length_map] at same
    omega
  refine sat_bind (fun _ last => Returned limits table thread rows last)
    (sat_call RowOp.commit ?_ fun _ _ _ _ performed => never_rejected performed) ?_
  · intro before rely _ after performed
    obtain ⟨⟨_, _, session, current, rfl⟩, _⟩ := performed
    have holdingNow := holdingLocked.stable rely
    have claimsNext := holdingNow.claims.publish current
    obtain ⟨held, now, keys, _⟩ := holdingNow.session
    obtain rfl := Option.some.inj (current.symm.trans now)
    rw [List.nil_append, ← ids] at keys
    have stamped : ∀ id, (before.publish Request.id thread session).stamps id =
        if id ∈ session.locked then ⟨before.commits, some thread⟩ else before.stamps id := fun _ => rfl
    refine ⟨⟨fun _ => claimsNext, fun other different => ⟨fun _ => claimsNext, ?_, fun id => ?_⟩⟩,
      fun id => ?_, bounded, claimed⟩
    · exact Function.update_of_ne different _ _
    · rw [stamped]
      split
      · rename_i member
        have unwritten := (holdingNow.claims.unclaimed thread session current id member).1
        simp [unwritten, Ne.symm different]
      · exact Iff.rfl
    · rw [stamped, ← keys]
      split
      · rename_i member
        simp [member]
      · rename_i absent
        simp [absent, holdingNow.unwritten id]
  intro _ last returned
  exact returned

end Calls

section Commits

theorem lockAll_confined (targets : List String) :
    (lockAll claimEdit targets).Confined (· ≠ .commit) := by
  induction targets with
  | nil => trivial
  | cons target rest ih =>
      exact Prog.confined_bind (Prog.confined_call _ (by simp)) fun row =>
        Prog.confined_bind ih fun rows => trivial

/-- A call that has committed returns at once. -/
theorem batchProcessing_leads (limit : Nat) :
    (batchProcessing limit).Leads fun op reply rest =>
      op = .commit → ∀ value, reply = .ok value → ∃ rows, rest = .done rows := by
  have apart :
      ∀ {A : Type} {program : Connection Request String requestColumns A}
      {rest : Connection Request String requestColumns A →
        Connection Request String requestColumns (List Request)},
      program.Confined (· ≠ .commit) → program.Leads fun op reply current =>
        op = .commit → ∀ value, reply = .ok value → ∃ rows, rest current = .done rows :=
    fun confined => Prog.leads_confined confined fun _ _ _ other same => absurd same other
  refine Prog.leads_bind (apart (Prog.confined_call _ (by simp))) fun _ => ?_
  refine Prog.leads_bind (apart (Prog.confined_call _ (by simp))) fun ready => ?_
  refine Prog.leads_bind (apart (lockAll_confined _)) fun returned => ?_
  intro reply
  cases reply with
  | ok value => exact ⟨fun _ _ _ => ⟨returned, rfl⟩, trivial⟩
  | error error => exact ⟨fun _ _ => nofun, trivial⟩

/-- Only the commit of a call writes in its name. -/
theorem resolves_writer {thread : Nat} {op : RowOp Request String requestColumns} {before : RequestDatabase}
    {value : op.Reply} {after : RequestDatabase} (resolves : op.Resolves Request.id thread before value after)
    (id : String) :
    after.stamps id = before.stamps id ∨ op = .commit ∧ (after.stamps id).writer = some thread := by
  cases op with
  | begin isolation =>
      obtain ⟨_, rfl⟩ := resolves
      exact .inl rfl
  | select chosen =>
      obtain ⟨_, _, _, rfl⟩ := resolves
      exact .inl rfl
  | scan keys =>
      obtain ⟨_, _, _, rfl⟩ := resolves
      exact .inl rfl
  | clock =>
      obtain ⟨_, rfl⟩ := resolves
      exact .inl rfl
  | lock target edit =>
      obtain ⟨_, _, _, _, _, _, _, rfl⟩ := resolves
      exact .inl rfl
  | commit =>
      obtain ⟨session, _, rfl⟩ := resolves
      by_cases member : id ∈ session.locked
      · exact .inr ⟨rfl, by simp [Database.publish, member]⟩
      · exact .inl (by simp [Database.publish, member])
  | rollback =>
      obtain rfl := resolves
      exact .inl rfl
  | sleep delay =>
      obtain rfl := resolves
      exact .inl rfl

/-- A call that has written a row has returned. -/
theorem writer_returned {limits : Nat → Nat} {table : RequestTable} {clock : Int} {pool : ClaimPool}
    (run : Reaches (claimSystem limits) (Pool.idle (Database.opened table clock)) pool) :
    (∀ thread program, pool.threads thread = some program → program.Leads fun op reply rest =>
      op = .commit → ∀ value, reply = .ok value → ∃ rows, rest = .done rows) ∧
    ∀ thread id, (pool.world.stamps id).writer = some thread →
      ∃ rows, pool.threads thread = some (.done rows) := by
  induction run with
  | refl => exact ⟨fun _ _ => nofun, fun _ _ => nofun⟩
  | tail _ step ih =>
      obtain ⟨label, step⟩ := step
      obtain ⟨leads, returned⟩ := ih
      cases step with
      | @start actor program free started =>
          refine ⟨fun thread program running => ?_, fun thread id written => ?_⟩
          · simp only [Pool.resume, Function.update_apply] at running
            split at running
            · obtain rfl := Option.some.inj running
              rw [show _ = batchProcessing _ from started]
              exact batchProcessing_leads _
            · exact leads thread program running
          · obtain ⟨rows, running⟩ := returned thread id written
            have different : thread ≠ actor := by
              rintro rfl
              rw [free] at running
              cases running
            exact ⟨rows, (Function.update_of_ne different _ _).trans running⟩
      | @act actor op next reply world current performed =>
          obtain ⟨value, rfl, resolves⟩ := performed
          have after := leads actor _ current (.ok value)
          refine ⟨fun thread program running => ?_, fun thread id written => ?_⟩
          · simp only [Pool.resume, Function.update_apply] at running
            split at running
            · obtain rfl := Option.some.inj running
              exact after.2
            · exact leads thread program running
          · change (world.stamps id).writer = some thread at written
            rcases resolves_writer resolves id with same | ⟨commits, own⟩
            · rw [same] at written
              obtain ⟨rows, running⟩ := returned thread id written
              have different : thread ≠ actor := by
                rintro rfl
                rw [current] at running
                cases running
              exact ⟨rows, (Function.update_of_ne different _ _).trans running⟩
            · obtain rfl := Option.some.inj (own.symm.trans written)
              obtain ⟨rows, done⟩ := after.1 commits value rfl
              exact ⟨rows, (Function.update_self ..).trans (congrArg some done)⟩
      | drift moved =>
          obtain ⟨_, _, rfl⟩ := moved
          exact ⟨leads, returned⟩

end Commits

/-- The calls of a run claim exclusively when each of their updates finds its rows still ready. -/
theorem batchProcessing_exclusive (limits : Nat → Nat) (table : RequestTable) (clock : Int)
    {pool : ClaimPool}
    (run : ReachesUnder (claimSystem limits) FindsReady (Pool.idle (Database.opened table clock)) pool) :
    ExclusiveClaim limits table pool := by
  have unstarted : (claimDiscipline limits table).AllSafe (Pool.idle (Database.opened table clock)) :=
    fun thread => ⟨rfl, fun id written => by cases written⟩
  obtain ⟨claims, safe⟩ := (claimDiscipline limits table).invariant (Claims table)
    (fun thread program world claims dormant started => by
      obtain rfl : program = batchProcessing (limits thread) := started
      exact batchProcessing_sat claims dormant)
    (fun claims _ guarantee => guarantee.1 claims)
    (fun claims moved => claims.drifts moved)
    run.restrict (Claims.opened table clock) unstarted
  have returned : ∀ thread rows, pool.threads thread = some (.done rows) →
      Returned limits table thread rows pool.world := fun thread rows finished => safe.started finished
  constructor
  case disjoint =>
    intro first second rows others different finished finishedToo row member other otherMember same
    have mine := ((returned first rows finished).written row.id).mpr (List.mem_map_of_mem member)
    have yours := ((returned second others finishedToo).written other.id).mpr
      (List.mem_map_of_mem otherMember)
    rw [← same, mine] at yours
    exact different (Option.some.inj yours)
  case bounded =>
    intro thread rows finished positive
    exact (returned thread rows finished).bounded positive
  case moved =>
    intro thread rows finished row member
    have written := ((returned thread rows finished).written row.id).mpr (List.mem_map_of_mem member)
    obtain ⟨old, atFirst, claimed⟩ := (returned thread rows finished).claimed row member
    obtain ⟨same, sameFirst, now⟩ := claims.claimed row.id thread written
    obtain rfl := Option.some.inj (atFirst.1.symm.trans sameFirst.1)
    refine ⟨⟨old, (Table.lookup_mem atFirst.1).1, atFirst.2, claimed⟩, ?_, written⟩
    rw [← claimed] at now
    exact (Table.lookup_mem now).1
  case unchanged =>
    intro id changed
    cases written : (pool.world.stamps id).writer with
    | none => exact absurd (claims.untouched id written) changed
    | some thread =>
        obtain ⟨rows, finished⟩ := (writer_returned (Reaches.of_under run)).2 thread id written
        exact ⟨thread, rows, finished,
          List.mem_map.mp (((returned thread rows finished).written id).mp written)⟩

section Runs

/-- The request that both calls select. -/
def readyRequest : Request := ⟨"1", .READY, "bafy1", "k2t6", "", false, 0, 0, 0, none⟩

/-- One call claims the ready request while nobody else does. -/
theorem batchProcessing_exclusive_single : ∃ pool rows,
    ReachesUnder (claimSystem fun _ => 1) FindsReady (Pool.idle (Database.opened oneReady 0)) pool ∧
      pool.threads 0 = some (.done rows) ∧ rows = [claimEdit.apply readyRequest] ∧
      ExclusiveClaim (fun _ => 1) oneReady pool := by
  have run : ∃ pool rows,
      ReachesUnder (claimSystem fun _ => 1) FindsReady (Pool.idle (Database.opened oneReady 0)) pool ∧
        pool.threads 0 = some (.done rows) ∧ rows = [claimEdit.apply readyRequest] := by
    apply Exists.intro
    apply Exists.intro
    constructor
    · apply ReachesUnder.start 0 rfl rfl
      · rintro _ _ _ _ ⟨⟩
      apply ReachesUnder.act 0 (.begin .readCommitted) (.ok ()) rfl
      · exact ⟨_, rfl, rfl, rfl⟩
      · rintro _ _ _ _ ⟨⟩
      apply ReachesUnder.act 0 (.select fun request => request.status = .READY) (.ok oneReady.rows) rfl
      · exact ⟨_, rfl, _, rfl, .refl _, rfl⟩
      · rintro _ _ _ _ ⟨⟩
      apply ReachesUnder.act 0 (.lock "1" claimEdit) (.ok (claimEdit.apply readyRequest)) rfl
      · refine ⟨_, rfl, _, readyRequest, rfl, ?_, fun _ => rfl, rfl, rfl, rfl⟩
        rintro ⟨other, session, different, current, member⟩
        simp [Pool.resume, Pool.idle, Database.withSession, Database.enter, Database.opened,
          different] at current
      · rintro _ _ _ _ ⟨⟩
        exact ⟨_, rfl, rfl⟩
      apply ReachesUnder.act 0 .commit (.ok ()) rfl
      · exact ⟨_, rfl, _, rfl, rfl⟩
      · rintro _ _ _ _ ⟨⟩
      exact .refl
    · exact ⟨rfl, rfl⟩
  obtain ⟨pool, rows, run, finished, single⟩ := run
  exact ⟨pool, rows, run, finished, single, batchProcessing_exclusive _ oneReady 0 run⟩

/-- Two calls that select before either commits both return the request. -/
theorem batchProcessing_claims_twice : ¬ ∀ (limits : Nat → Nat) (table : RequestTable) (clock : Int)
    (pool : ClaimPool), Reaches (claimSystem limits) (Pool.idle (Database.opened table clock)) pool →
      ExclusiveClaim limits table pool := by
  have run : ∃ pool,
      ReachesUnder (claimSystem fun _ => 1) (fun _ _ => True) (Pool.idle (Database.opened oneReady 0)) pool ∧
        pool.threads 0 = some (.done [claimEdit.apply readyRequest]) ∧
        pool.threads 1 = some (.done [claimEdit.apply readyRequest]) := by
    apply Exists.intro
    constructor
    · apply ReachesUnder.start 0 rfl rfl trivial
      apply ReachesUnder.start 1 rfl rfl trivial
      apply ReachesUnder.act 0 (.begin .readCommitted) (.ok ()) rfl
      · exact ⟨_, rfl, rfl, rfl⟩
      · trivial
      apply ReachesUnder.act 1 (.begin .readCommitted) (.ok ()) rfl
      · exact ⟨_, rfl, rfl, rfl⟩
      · trivial
      apply ReachesUnder.act 0 (.select fun request => request.status = .READY) (.ok oneReady.rows) rfl
      · exact ⟨_, rfl, _, rfl, .refl _, rfl⟩
      · trivial
      apply ReachesUnder.act 1 (.select fun request => request.status = .READY) (.ok oneReady.rows) rfl
      · exact ⟨_, rfl, _, rfl, .refl _, rfl⟩
      · trivial
      apply ReachesUnder.act 0 (.lock "1" claimEdit) (.ok (claimEdit.apply readyRequest)) rfl
      · refine ⟨_, rfl, _, readyRequest, rfl, ?_, fun _ => rfl, rfl, rfl, rfl⟩
        rintro ⟨other, session, different, current, member⟩
        simp only [Pool.resume, Pool.idle, Database.withSession, Database.enter, Database.opened,
          Function.update_apply, different, if_false] at current
        split at current
        · cases current
          cases member
        · cases current
      · trivial
      apply ReachesUnder.act 0 .commit (.ok ()) rfl
      · exact ⟨_, rfl, _, rfl, rfl⟩
      · trivial
      apply ReachesUnder.act 1 (.lock "1" claimEdit) (.ok (claimEdit.apply readyRequest)) rfl
      · refine ⟨_, rfl, _, claimEdit.apply readyRequest, rfl, ?_, by rintro ⟨⟩, rfl, rfl, rfl⟩
        rintro ⟨other, session, different, current, member⟩
        simp only [Pool.resume, Pool.idle, Database.withSession, Database.enter, Database.opened,
          Database.publish, Function.update_apply, different, if_false] at current
        split at current <;> cases current
      · trivial
      apply ReachesUnder.act 1 .commit (.ok ()) rfl
      · exact ⟨_, rfl, _, rfl, rfl⟩
      · trivial
      exact .refl
    · exact ⟨rfl, rfl⟩
  intro exclusive
  obtain ⟨pool, run, first, second⟩ := run
  have claim := exclusive _ oneReady 0 pool (.of_under run)
  exact claim.disjoint 0 1 _ _ (by decide) first second _ (.head _) _ (.head _) rfl

end Runs

end CeramicAnchor.RequestRepository
