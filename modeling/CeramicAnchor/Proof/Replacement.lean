import CeramicAnchor.Proof.LoneRequest

/-
This file proves what the replacement of older requests keeps.
-/

namespace CeramicAnchor
open Concurrency Storage RequestRepository

/-- Each replaced request has a request of its group that is not replaced and not older. -/
def World.NewestSurvives (world : World) : Prop :=
  ∀ request ∈ world.requests.rows, request.status = .REPLACED →
    ∃ newer ∈ world.requests.rows, newer.InGroup request.origin request.streamId ∧
      newer.status ≠ .REPLACED ∧ request.timestamp ≤ newer.timestamp

/-- No request becomes replaced, and no other request is lost. -/
theorem World.NewestSurvives.frame {world next : World} (survives : world.NewestSurvives)
    (old : ∀ request ∈ next.requests.rows, request.status = .REPLACED → request ∈ world.requests.rows)
    (kept : ∀ request ∈ world.requests.rows, request.status ≠ .REPLACED →
      ∃ later ∈ next.requests.rows, later.Same request ∧ later.status ≠ .REPLACED) : next.NewestSurvives := by
  intro request member replaced
  obtain ⟨newer, inside, group, alive, later⟩ := survives request (old request member replaced) replaced
  obtain ⟨version, present, same, stillAlive⟩ := kept newer inside alive
  refine ⟨version, present, same.inGroup group, stillAlive, ?_⟩
  rw [same.timestamp]
  exact later

theorem World.NewestSurvives.update {world next : World} (survives : world.NewestSurvives)
    {chosen : Request → Bool} {edit : RequestEdit} {status : RequestStatus} (sets : SetsStatus edit status)
    (alive : status ≠ .REPLACED) (written : next.requests = world.requests.update chosen edit) :
    next.NewestSurvives := by
  apply survives.frame
  · intro request member replaced
    rw [written] at member
    exact (sets.unmoved member (by rw [replaced]; exact alive.symm)).1
  · intro request member notReplaced
    rw [written]
    obtain ⟨later, present, same, rfl | moved⟩ := sets.keeps chosen member
    · exact ⟨later, present, same, notReplaced⟩
    · exact ⟨later, present, same, by rw [moved]; exact alive⟩

section Replace

variable {world : World} {origin : Option String} {streamId cid : String} {ordered : List Request}

/-- The first request of the order stays, and it is the newest pending request of the group. -/
theorem first_stays
    (permuted : ordered.Perm (world.requests.rows.filter fun request =>
      request.InGroup origin streamId ∧ request.status = .PENDING))
    {first : Request} {rest : List Request} (split : ordered = first :: rest) :
    first ∈ (world.requests.update (fun request => request.id ∈ (ordered.drop 1).map Request.id)
      (replacedEdit cid)).rows := by
  have inside : first ∈ world.requests.rows := by
    have member : first ∈ ordered := by simp [split]
    exact (List.mem_filter.mp (permuted.mem_iff.mp member)).1
  have distinct : (ordered.map Request.id).Nodup := ids_nodup permuted
  have absent : first.id ∉ (ordered.drop 1).map Request.id := by
    rw [split, List.map_cons, List.nodup_cons] at distinct
    simpa [split] using distinct.1
  refine Table.mem_update.mpr ⟨first, inside, ?_⟩
  simp only [decide_eq_true_eq, if_neg absent]

/-- The replaced rows are pending rows of the group behind the first one. -/
theorem replaced_behind
    (permuted : ordered.Perm (world.requests.rows.filter fun request =>
      request.InGroup origin streamId ∧ request.status = .PENDING))
    {request : Request} (member : request ∈ world.requests.rows)
    (chosen : request.id ∈ (ordered.drop 1).map Request.id) :
    request ∈ ordered.drop 1 ∧ request.InGroup origin streamId ∧ request.status = .PENDING := by
  obtain ⟨other, behind, same⟩ := List.mem_map.mp chosen
  have found := List.mem_filter.mp (permuted.mem_iff.mp (List.mem_of_mem_drop behind))
  obtain rfl := Table.eq_of_column id_indexed found.1 member same
  exact ⟨behind, by simpa using found.2⟩

theorem World.NewestSurvives.replace {next : World} (survives : world.NewestSurvives)
    (permuted : ordered.Perm (world.requests.rows.filter fun request =>
      request.InGroup origin streamId ∧ request.status = .PENDING))
    (sorted : ordered.Pairwise fun first second => second.timestamp ≤ first.timestamp)
    (written : next.requests = world.requests.update
      (fun request => request.id ∈ (ordered.drop 1).map Request.id) (replacedEdit cid)) :
    next.NewestSurvives := by
  have sets := replacedEdit_setsStatus cid
  -- A replaced request finds the first request of the order, which is not older.
  have newer : ∀ request ∈ ordered.drop 1, ∃ first ∈ next.requests.rows, first.InGroup origin streamId ∧
      first.status ≠ .REPLACED ∧ request.timestamp ≤ first.timestamp := by
    intro request behind
    cases split : ordered with
    | nil => simp [split] at behind
    | cons first rest =>
        rw [split] at sorted
        have inOrder : request ∈ rest := by simpa [split] using behind
        have member : first ∈ ordered := by simp [split]
        have found := (List.mem_filter.mp (permuted.mem_iff.mp member)).2
        have facts : first.InGroup origin streamId ∧ first.status = .PENDING := by simpa using found
        refine ⟨first, ?_, facts.1, ?_, List.rel_of_pairwise_cons sorted inOrder⟩
        · rw [written]
          exact first_stays permuted split
        · rw [facts.2]
          decide
  have settle : ∀ request ∈ world.requests.rows, (∃ later ∈ next.requests.rows,
      later.InGroup request.origin request.streamId ∧ later.status ≠ .REPLACED ∧
      request.timestamp ≤ later.timestamp) ∨ request.status = .REPLACED := by
    intro request member
    by_cases chosen : request.id ∈ (ordered.drop 1).map Request.id
    · obtain ⟨behind, group, _⟩ := replaced_behind permuted member chosen
      obtain ⟨first, present, inGroup, alive, later⟩ := newer request behind
      rw [group.1, group.2]
      exact .inl ⟨first, present, inGroup, alive, later⟩
    · by_cases replaced : request.status = .REPLACED
      · exact .inr replaced
      · refine .inl ⟨request, ?_, ⟨rfl, rfl⟩, replaced, Int.le_refl _⟩
        rw [written]
        refine Table.mem_update.mpr ⟨request, member, ?_⟩
        simp only [decide_eq_true_eq, if_neg chosen]
  intro request member replaced
  rw [written] at member
  obtain ⟨old, inside, same, _⟩ := sets.cases member
  rw [same.origin, same.streamId, same.timestamp]
  rcases settle old inside with found | wasReplaced
  · exact found
  · obtain ⟨witness, present, group, alive, later⟩ := survives old inside wasReplaced
    rcases settle witness present with ⟨newest, there, inGroup, stillAlive, evenLater⟩ | gone
    · rw [group.1, group.2] at inGroup
      exact ⟨newest, there, inGroup, stillAlive, Int.le_trans later evenLater⟩
    · exact absurd gone alive

end Replace

theorem World.NewestSurvives.moves {formats : Formats} {thread : Nat} {op : WorldOp} {world next : World}
    (survives : world.NewestSurvives) (regular : op.Regular) (moves : world.Moves formats thread op next) :
    next.NewestSurvives := by
  cases moves with
  | idle => exact survives
  | @insert request requestId fresh =>
      apply survives.frame
      · intro row member replaced
        rcases (Table.mem_insert _ _ fresh).mp member with old | rfl
        · exact old
        · rw [show (request.stored requestId world.clock).status = .PENDING from regular] at replaced
          cases replaced
      · intro row member alive
        exact ⟨row, Table.subset_insert _ _ fresh member, .refl row, alive⟩
  | replace permuted sorted => exact survives.replace permuted sorted rfl
  | @revert fields updatedAt ids =>
      obtain rfl : fields = ⟨none, some .PENDING, none⟩ := regular
      exact survives.update (RequestUpdateFields.setsStatus rfl updatedAt) (by decide) rfl
  | claim claimed => exact survives.update claimEdit_setsStatus (by decide) claimed
  | begin_ => exact survives
  | @mark transaction stamp marked requests wrote takes =>
      refine survives.update (RequestUpdateFields.setsStatus rfl stamp) ?_ wrote.written
      rcases transaction.target_cases with ready | processing
      · rw [ready]
        decide
      · rw [processing]
        decide
  | @complete anchors acceptedRequests stamp marked requests wrote accepted =>
      exact survives.update (RequestUpdateFields.setsStatus rfl stamp) (by decide) wrote.written
  | publish => exact survives
  | submit fresh => exact survives
  | storeCar => exact survives
  | storeWitness => exact survives

/-- The request was set back since the last replacement in its group, or its creation has not replaced yet. -/
def History.Excuses (history : History) (request : Request) : Prop :=
  request.id ∈ history.reverted ∨
    ∃ entry ∈ history.creating, entry.2.cid = request.cid ∧
      entry.2.InGroup request.origin request.streamId

/-- Two pending requests of one group are there only for a reason. -/
def World.Settled (world : World) : Prop :=
  ∀ first ∈ world.requests.rows, ∀ second ∈ world.requests.rows,
    first.status = .PENDING → second.status = .PENDING → second.InGroup first.origin first.streamId →
    first.id ≠ second.id → world.history.Excuses first ∨ world.history.Excuses second

/-- A new pending request has an excuse, and no excuse is lost. -/
theorem World.Settled.frame {world next : World} (settled : world.Settled)
    (pending : ∀ request ∈ next.requests.rows, request.status = .PENDING →
      request ∈ world.requests.rows ∨ next.history.Excuses request)
    (kept : ∀ request, world.history.Excuses request → next.history.Excuses request) : next.Settled := by
  intro first inFirst second inSecond firstPending secondPending group different
  rcases pending first inFirst firstPending with oldFirst | excused
  · rcases pending second inSecond secondPending with oldSecond | excused
    · have excuse := settled first oldFirst second oldSecond firstPending secondPending group different
      exact excuse.imp (kept first) (kept second)
    · exact .inr excused
  · exact .inl excused

theorem World.Settled.update {world next : World} (settled : world.Settled) {chosen : Request → Bool}
    {edit : RequestEdit} {status : RequestStatus} (sets : SetsStatus edit status) (active : status ≠ .PENDING)
    (written : next.requests = world.requests.update chosen edit)
    (creating : next.history.creating = world.history.creating)
    (reverted : next.history.reverted = world.history.reverted) : next.Settled := by
  apply settled.frame
  · intro request member pending
    rw [written] at member
    exact .inl (sets.unmoved member (by rw [pending]; exact active.symm)).1
  · intro request excused
    unfold History.Excuses
    rw [creating, reverted]
    exact excused

theorem World.Settled.replace {world next : World} {origin : Option String} {streamId cid : String}
    {ordered : List Request} (settled : world.Settled)
    (permuted : ordered.Perm (world.requests.rows.filter fun request =>
      request.InGroup origin streamId ∧ request.status = .PENDING))
    (written : next.requests = world.requests.update
      (fun request => request.id ∈ (ordered.drop 1).map Request.id) (replacedEdit cid))
    (noted : next.history = world.history.replace world.requests origin streamId cid) : next.Settled := by
  have unmoved : ∀ request ∈ next.requests.rows, request.status = .PENDING →
      request ∈ world.requests.rows ∧ request.id ∉ (ordered.drop 1).map Request.id := by
    intro request member pending
    rw [written] at member
    obtain ⟨inside, skipped⟩ := (replacedEdit_setsStatus cid).unmoved member (by rw [pending]; decide)
    exact ⟨inside, of_decide_eq_false skipped⟩
  -- In the group itself, only the first request of the order is still pending.
  have first : ∀ request ∈ next.requests.rows, request.status = .PENDING →
      request.InGroup origin streamId → ordered.head? = some request := by
    intro request member pending group
    obtain ⟨inside, behind⟩ := unmoved request member pending
    have inOrder : request ∈ ordered := by
      apply permuted.mem_iff.mpr
      simp [inside, group, pending]
    cases ordered with
    | nil => simp at inOrder
    | cons head rest =>
        rcases List.mem_cons.mp inOrder with rfl | inRest
        · rfl
        · exact absurd (List.mem_map.mpr ⟨request, inRest, rfl⟩) behind
  -- The statement takes away no excuse of another group.
  have kept : ∀ request ∈ world.requests.rows, ¬ request.InGroup origin streamId →
      world.history.Excuses request → next.history.Excuses request := by
    intro request member outside excused
    rw [noted]
    rcases excused with reverted | ⟨entry, inCreating, sameCid, group⟩
    · refine .inl (List.mem_filter.mpr ⟨reverted, ?_⟩)
      refine decide_eq_true fun other inside same => ?_
      obtain rfl := Table.eq_of_column id_indexed inside member same
      exact outside
    · refine .inr ⟨entry, List.mem_filter.mpr ⟨inCreating, ?_⟩, sameCid, group⟩
      refine decide_eq_true fun matching => outside ?_
      exact ⟨group.1.symm.trans matching.2.1, group.2.symm.trans matching.2.2⟩
  intro one inOne two inTwo onePending twoPending group different
  obtain ⟨oldOne, _⟩ := unmoved one inOne onePending
  obtain ⟨oldTwo, _⟩ := unmoved two inTwo twoPending
  by_cases inside : one.InGroup origin streamId
  · have twoInside : two.InGroup origin streamId := ⟨group.1.trans inside.1, group.2.trans inside.2⟩
    have same : some one = some two := by
      rw [← first one inOne onePending inside, first two inTwo twoPending twoInside]
    exact absurd (congrArg Request.id (Option.some.inj same)) different
  · have twoOutside : ¬ two.InGroup origin streamId :=
      fun twoInside => inside ⟨group.1.symm.trans twoInside.1, group.2.symm.trans twoInside.2⟩
    have excuse := settled one oldOne two oldTwo onePending twoPending group different
    exact excuse.imp (kept one oldOne inside) (kept two oldTwo twoOutside)

theorem World.Settled.moves {formats : Formats} {thread : Nat} {op : WorldOp} {world next : World}
    (settled : world.Settled) (moves : world.Moves formats thread op next) : next.Settled := by
  cases moves with
  | idle => exact settled
  | @insert request requestId fresh =>
      apply settled.frame
      · intro row member _
        rcases (Table.mem_insert _ _ fresh).mp member with old | rfl
        · exact .inl old
        · exact .inr (.inr ⟨_, List.mem_cons_self, rfl, rfl, rfl⟩)
      · intro row excused
        exact excused.imp id fun ⟨entry, member, same⟩ => ⟨entry, List.mem_cons_of_mem _ member, same⟩
  | replace permuted sorted => exact settled.replace permuted rfl rfl
  | @revert fields updatedAt ids =>
      apply settled.frame
      · intro row member _
        obtain ⟨old, inside, rfl⟩ := Table.mem_update.mp member
        by_cases chosen : old.id ∈ ids
        · refine .inr (.inl (List.mem_append_left _ ?_))
          simp only [chosen, decide_true, if_true]
          exact chosen
        · refine .inl ?_
          simpa [chosen] using inside
      · intro row excused
        exact excused.imp (List.mem_append_right _) id
  | claim claimed => exact settled.update claimEdit_setsStatus (by decide) claimed rfl rfl
  | begin_ => exact settled
  | @mark transaction stamp marked requests wrote takes =>
      refine settled.update (RequestUpdateFields.setsStatus rfl stamp) ?_ wrote.written rfl rfl
      rcases transaction.target_cases with ready | processing
      · rw [ready]
        decide
      · rw [processing]
        decide
  | @complete anchors acceptedRequests stamp marked requests wrote accepted =>
      exact settled.update (RequestUpdateFields.setsStatus rfl stamp) (by decide) wrote.written rfl rfl
  | publish => exact settled
  | submit fresh => exact settled
  | storeCar => exact settled
  | storeWitness => exact settled

/-- A POST request answered with CREATED or ACCEPTED. -/
def Response.Success : Response → Prop
  | .created _ => True
  | .accepted _ => True
  | .badRequest _ => False

def Task.IsPost : Task → Prop
  | .createRequest _ _ _ => True
  | _ => False

/-- Every started task has answered its request. -/
def Cas.Answered (pool : Cas) : Prop :=
  ∀ thread program, pool.threads thread = some program →
    ∃ response, program = .done (some response) ∧ response.Success

section Finished

variable {formats : Formats} {deployed : Task → Prop}

/-- No request that the thread has inserted still waits for its replacement. -/
def World.Quiet (thread : Nat) (world : World) : Prop :=
  ∀ request, (thread, request) ∉ world.history.creating

/-- Only the thread itself adds to the creations of the thread. -/
theorem World.Moves.creating {thread other : Nat} {op : WorldOp} {world next : World}
    (different : thread ≠ other) (moves : world.Moves formats other op next) {request : Request}
    (member : (thread, request) ∈ next.history.creating) : (thread, request) ∈ world.history.creating := by
  cases moves with
  | insert fresh =>
      rcases List.mem_cons.mp member with same | old
      · exact absurd (congrArg Prod.fst same) different
      · exact old
  | replace permuted sorted => exact (List.mem_filter.mp member).1
  | _ => exact member

/-- The threads rely on each other not to add to their creations. -/
def creations (formats : Formats) (deployed : Task → Prop) : Discipline (casSystem formats deployed) where
  rely thread before after :=
    ∀ request, (thread, request) ∈ after.history.creating → (thread, request) ∈ before.history.creating
  rely_refl _ _ _ member := member
  rely_trans first second request member := first request (second request member)
  guarantee _ _ _ _ _ := True
  dormant thread world := world.Quiet thread
  post thread value world := ∀ response, value = some response → response.Success → world.Quiet thread
  dormant_stable others quiet request member := quiet request (others request member)
  post_stable others quiet response same success request member :=
    quiet response same success request (others request member)
  sound different performed _ request member :=
    (WorldOp.perform_moves performed).creating different member
  drifts := by
    rintro thread before after ⟨later, passed, rfl⟩ request member
    exact member

/-- The operation leaves the world as it is. -/
def WorldOp.Reads (op : WorldOp) : Prop :=
  ∀ formats thread world next, World.Moves formats thread world op next → next = world

theorem RequestService.findByCid_reads (cid : String) :
    (RequestService.findByCid cid).Confined WorldOp.Reads := by
  have replica : (WorldOp.replicaFindByCid cid).Reads := by rintro _ _ _ _ ⟨⟩; rfl
  have main : (WorldOp.findByCid cid).Reads := by rintro _ _ _ _ ⟨⟩; rfl
  have present : ∀ request, (WorldOp.presentBody request).Reads := by rintro _ _ _ _ _ ⟨⟩; rfl
  exact RequestService.findByCid_confined replica main present

variable {thread : Nat} {world : World}

theorem sat_reads {A : Type} {program : Code A} (reads : program.Confined WorldOp.Reads)
    (quiet : world.Quiet thread) :
    Sat ((creations formats deployed).setting thread) (fun _ _ _ _ => True)
      (fun _ reached => reached.Quiet thread) (fun _ _ => True) program world := by
  refine sat_mono (sat_keeps (World.Quiet thread) reads ?_ ?_ quiet) (fun _ _ _ _ held => held)
    (fun _ _ held => held) (fun _ _ _ => trivial)
  · exact fun others quiet request member => quiet request (others request member)
  · intro op unchanged before reply after performed quietBefore
    rw [unchanged formats thread before after (WorldOp.perform_moves performed)]
    exact ⟨trivial, quietBefore⟩

theorem settle_quiet {service : RequestService} (queueless : service.publishToQueue = false) (origin : String)
    {stored : Request} (only : ∀ request, (thread, request) ∈ world.history.creating → request = stored) :
    Sat ((creations formats deployed).setting thread) (fun _ _ _ _ => True)
      (fun _ reached => reached.Quiet thread) (fun _ _ => True) (service.settle origin stored) world := by
  unfold RequestService.settle
  rw [if_neg (by rw [queueless]; decide)]
  refine sat_bind (fun _ reached => reached.Quiet thread)
    (sat_call (WorldOp.markReplaced stored.origin stored.streamId stored.cid) ?_ ?_) fun _ _ quiet => quiet
  · rintro before others count after ⟨ordered, permuted, sorted, _, rfl⟩
    refine ⟨trivial, fun request member => ?_⟩
    obtain ⟨inCreating, kept⟩ := List.mem_filter.mp member
    obtain rfl := only request (others request inCreating)
    exact of_decide_eq_true kept ⟨rfl, rfl, rfl⟩
  · exact fun _ _ _ _ _ => ⟨trivial, trivial⟩

theorem create_quiet {service : RequestService} (queueless : service.publishToQueue = false)
    (params : RequestAnchorParams) (origin : String) (quiet : world.Quiet thread) :
    Sat ((creations formats deployed).setting thread) (fun _ _ _ _ => True)
      (fun _ reached => reached.Quiet thread) (fun _ _ => True) (service.create params origin) world := by
  have timestamped : (RequestService.timestampOf params).Confined WorldOp.Reads := by
    have clock : WorldOp.now.Reads := by rintro _ _ _ _ ⟨⟩; rfl
    unfold RequestService.timestampOf
    split
    · trivial
    · exact Prog.confined_call _ clock
  have present : ∀ request, (WorldOp.presentBody request).Reads := by rintro _ _ _ _ _ ⟨⟩; rfl
  refine sat_bind _ (sat_reads timestamped quiet) fun timestamp reached quietNow => ?_
  refine sat_bind (fun created later =>
      ∀ request, (thread, request) ∈ later.history.creating → created = some request)
    (sat_call (WorldOp.insertRequest _) ?_ ?_) ?_
  · rintro before others created after (⟨_, rfl, rfl⟩ | ⟨id, fresh, rfl, rfl⟩)
    · exact ⟨trivial, fun request member => absurd (others request member) (quietNow request)⟩
    · refine ⟨trivial, fun request member => ?_⟩
      rcases List.mem_cons.mp member with same | old
      · exact congrArg (some ∘ Prod.snd) same.symm
      · exact absurd (others request old) (quietNow request)
  · exact fun _ _ _ _ _ => ⟨trivial, trivial⟩
  · intro created later known
    cases created with
    | none => exact fun request member => by cases known request member
    | some stored =>
        have alone : ∀ request, (thread, request) ∈ later.history.creating → request = stored :=
          fun request member => (Option.some.inj (known request member)).symm
        refine sat_bind _ (settle_quiet queueless origin alone) fun _ _ settled => ?_
        exact sat_bind _ (sat_reads (Prog.confined_call _ (present stored)) settled) fun _ _ done => done

theorem createRequest_quiet {service : RequestService} (queueless : service.publishToQueue = false)
    (req : ExpReq) (validation : Except (List String) RequestAnchorParams) (quiet : world.Quiet thread) :
    Sat ((creations formats deployed).setting thread) (fun _ _ _ _ => True)
      (fun response reached => response.Success → reached.Quiet thread) (fun _ _ => True)
      (RequestController.createRequest service req validation) world := by
  unfold RequestController.createRequest
  cases validation with
  | error report => exact fun success => success.elim
  | ok requestParams =>
      refine sat_handle (fun _ _ => True) ?_ fun _ _ _ success => success.elim
      refine sat_bind _ (create_quiet queueless requestParams _ quiet) fun body reached quietNow => ?_
      cases body with
      | some body => exact fun _ => quietNow
      | none =>
          exact sat_bind _ (sat_reads (RequestService.findByCid_reads _) quietNow) fun _ _ done _ => done

/-- When every POST request has been answered, none of them still waits for its replacement. -/
theorem Cas.Answered.creating_nil (queueless : ∀ task, deployed task → task.Queueless)
    (posts : ∀ task, deployed task → task.IsPost) {clock : Int} {last : Cas}
    (run : Reaches (casSystem formats deployed) (Cas.start clock) last) (answered : last.Answered) :
    last.world.history.creating = [] := by
  have safe := ((creations formats deployed).invariant (fun _ => True) ?_ (fun _ _ _ => trivial)
    (fun _ _ => trivial) run trivial fun thread => ?_).2
  · rw [List.eq_nil_iff_forall_not_mem]
    rintro ⟨thread, request⟩ member
    cases running : last.threads thread with
    | none => exact safe.unstarted running request member
    | some program =>
        obtain ⟨response, rfl, success⟩ := answered thread program running
        exact safe.started running response rfl success request member
  · rintro thread program world _ quiet ⟨task, allowed, rfl⟩
    cases task with
    | createRequest service req validation =>
        have local_ := queueless _ allowed
        refine sat_bind _ (createRequest_quiet local_ req validation quiet) fun response reached held => ?_
        rintro other ⟨⟩ success
        exact held success
    | _ => exact (posts _ allowed).elim
  · intro request member
    cases member

end Finished

section Creations

variable {formats : Formats} {deployed : Task → Prop}

/-- Only POST requests have run, so each request is pending or replaced. -/
structure World.OnlyCreated (world : World) : Prop where
  statuses : ∀ request ∈ world.requests.rows, request.status = .PENDING ∨ request.status = .REPLACED
  reverted : world.history.reverted = []

theorem World.OnlyCreated.moves {thread : Nat} {op : WorldOp} {world next : World}
    (created : world.OnlyCreated)
    (creates : op.Creates) (moves : world.Moves formats thread op next) : next.OnlyCreated := by
  cases moves with
  | @insert request requestId fresh =>
      refine ⟨fun row member => ?_, created.reverted⟩
      rcases (Table.mem_insert _ _ fresh).mp member with old | rfl
      · exact created.statuses row old
      · exact .inl creates
  | @replace origin streamId cid ordered permuted sorted =>
      constructor
      · intro row member
        obtain ⟨old, inside, _, ⟨_, _, moved⟩ | ⟨_, rfl⟩⟩ := (replacedEdit_setsStatus cid).cases member
        · exact .inr moved
        · exact created.statuses row inside
      · change List.filter _ world.history.reverted = []
        rw [created.reverted]
        rfl
  | revert => exact creates.elim
  | claim => exact creates.elim
  | mark => exact creates.elim
  | complete => exact creates.elim
  | idle => exact created
  | begin_ => exact ⟨created.statuses, created.reverted⟩
  | publish => exact ⟨created.statuses, created.reverted⟩
  | submit => exact ⟨created.statuses, created.reverted⟩
  | storeCar => exact ⟨created.statuses, created.reverted⟩
  | storeWitness => exact ⟨created.statuses, created.reverted⟩

theorem Task.run_creates {task : Task} (post : task.IsPost) :
    (task.run formats).Confined WorldOp.Creates := by
  cases task with
  | createRequest service req validation =>
      exact Prog.confined_bind (RequestController.createRequest_creates service req validation) fun _ =>
        trivial
  | _ => exact post.elim

theorem Cas.onlyCreated (posts : ∀ task, deployed task → task.IsPost) {clock : Int} {last : Cas}
    (run : Reaches (casSystem formats deployed) (Cas.start clock) last) : last.world.OnlyCreated := by
  have kept := Cas.preserves_inside (fun world next : World => world.OnlyCreated → next.OnlyCreated)
    (fun task allowed => Task.run_creates (posts task allowed)) (fun _ => id)
    (fun first second => second ∘ first) (fun _ creates moved start => start.moves creates moved)
    (by rintro world next ⟨later, _, rfl⟩ start; exact ⟨start.statuses, start.reverted⟩) .refl run.under
  have initially : (World.empty clock).OnlyCreated := ⟨fun request member => (by cases member), rfl⟩
  exact kept initially

theorem Cas.newestSurvives {clock : Int} {last : Cas}
    (run : Reaches (casSystem formats deployed) (Cas.start clock) last) : last.world.NewestSurvives :=
  Cas.invariant World.NewestSurvives (fun request member => by cases member)
    (fun survives _ regular moved => survives.moves regular moved)
    (by rintro world next survives ⟨later, _, rfl⟩; exact survives) run.under

theorem Cas.settled {clock : Int} {last : Cas}
    (run : Reaches (casSystem formats deployed) (Cas.start clock) last) : last.world.Settled :=
  Cas.invariant World.Settled (fun first inFirst => by cases inFirst)
    (fun settled _ _ moved => settled.moves moved)
    (by rintro world next settled ⟨later, _, rfl⟩; exact settled) run.under

/-- With nothing to excuse, two pending requests of one group are the same request. -/
theorem World.Settled.eq_of_pending {world : World} (settled : world.Settled)
    (finished : world.history.creating = []) (reverted : world.history.reverted = [])
    {first second : Request} (inFirst : first ∈ world.requests.rows) (inSecond : second ∈ world.requests.rows)
    (firstPending : first.status = .PENDING) (secondPending : second.status = .PENDING)
    (group : second.InGroup first.origin first.streamId) : first = second := by
  by_contra different
  have ids : first.id ≠ second.id := fun same =>
    different (Table.eq_of_column id_indexed inFirst inSecond same)
  have none_ : ∀ request, ¬ world.history.Excuses request := by
    intro request excused
    simp [History.Excuses, finished, reverted] at excused
  exact (settled first inFirst second inSecond firstPending secondPending group ids).elim (none_ _) (none_ _)

/-- The newest pending request of a group is its only pending request. -/
theorem newest_of_group {world : World} (survives : world.NewestSurvives) (settled : world.Settled)
    (created : world.OnlyCreated) (finished : world.history.creating = []) {request : Request}
    (member : request ∈ world.requests.rows) :
    ∃ newest ∈ world.requests.rows, newest.InGroup request.origin request.streamId ∧
      newest.status = .PENDING ∧
      ∀ other ∈ world.requests.rows, other.InGroup request.origin request.streamId →
        other.timestamp ≤ newest.timestamp ∧ (other.status = .PENDING → other = newest) := by
  -- Each request has a pending request of its group that is not older.
  have pending : ∀ row ∈ world.requests.rows, ∃ newer ∈ world.requests.rows,
      newer.InGroup row.origin row.streamId ∧ newer.status = .PENDING ∧ row.timestamp ≤ newer.timestamp := by
    intro row inside
    rcases created.statuses row inside with waits | replaced
    · exact ⟨row, inside, ⟨rfl, rfl⟩, waits, Int.le_refl _⟩
    · obtain ⟨newer, present, group, alive, later⟩ := survives row inside replaced
      exact ⟨newer, present, group, (created.statuses newer present).resolve_right alive, later⟩
  obtain ⟨newest, inNewest, group, waits, _⟩ := pending request member
  refine ⟨newest, inNewest, group, waits, fun other inOther otherGroup => ?_⟩
  obtain ⟨newer, inNewer, newerGroup, newerWaits, later⟩ := pending other inOther
  have same : newest = newer := by
    apply settled.eq_of_pending finished created.reverted inNewest inNewer waits newerWaits
    exact ⟨newerGroup.1.trans (otherGroup.1.trans group.1.symm),
      newerGroup.2.trans (otherGroup.2.trans group.2.symm)⟩
  refine ⟨same ▸ later, fun otherWaits => ?_⟩
  apply settled.eq_of_pending finished created.reverted inOther inNewest otherWaits waits
  exact ⟨group.1.trans otherGroup.1.symm, group.2.trans otherGroup.2.symm⟩

/-- A further replacement finds at most one pending request in each group. -/
theorem replace_nothing {world : World} (settled : world.Settled) (created : world.OnlyCreated)
    (finished : world.history.creating = []) {thread count : Nat} {origin : Option String}
    {streamId cid : String} {next : World}
    (resolves : WorldOp.Resolves formats thread (.markReplaced origin streamId cid) world count next) :
    count = 0 ∧ next.requests = world.requests := by
  obtain ⟨ordered, permuted, _, rfl, rfl⟩ := resolves
  have behind : ordered.drop 1 = [] := by
    match shape : ordered with
    | [] => rfl
    | [_] => rfl
    | first :: second :: rest =>
        have facts : ∀ request ∈ first :: second :: rest, request ∈ world.requests.rows ∧
            request.InGroup origin streamId ∧ request.status = .PENDING := by
          intro request member
          have found := List.mem_filter.mp (permuted.mem_iff.mp member)
          exact ⟨found.1, by simpa using found.2⟩
        obtain ⟨inFirst, firstGroup, firstPending⟩ := facts first (by simp)
        obtain ⟨inSecond, secondGroup, secondPending⟩ := facts second (by simp)
        have same := settled.eq_of_pending finished created.reverted inFirst inSecond firstPending
          secondPending ⟨secondGroup.1.trans firstGroup.1.symm, secondGroup.2.trans firstGroup.2.symm⟩
        have distinct := ids_nodup permuted
        simp [same] at distinct
  rw [behind]
  refine ⟨rfl, Table.ext ?_⟩
  simp [Table.update]

/-- A replaced request leaves a newer one, and finished creations leave one pending request in each group. -/
theorem markReplaced_keeps_newest (queueless : ∀ task, deployed task → task.Queueless) {clock : Int}
    {last : Cas} (run : Reaches (casSystem formats deployed) (Cas.start clock) last) :
    last.world.NewestSurvives ∧
    ((∀ task, deployed task → task.IsPost) →
      (last.Answered → last.world.history.creating = []) ∧
      (last.world.history.creating = [] →
        (∀ request ∈ last.world.requests.rows, ∃ newest ∈ last.world.requests.rows,
          newest.InGroup request.origin request.streamId ∧ newest.status = .PENDING ∧
          ∀ other ∈ last.world.requests.rows, other.InGroup request.origin request.streamId →
            other.timestamp ≤ newest.timestamp ∧ (other.status = .PENDING → other = newest)) ∧
        ∀ thread origin streamId cid count next,
          WorldOp.Resolves formats thread (.markReplaced origin streamId cid) last.world count next →
          count = 0 ∧ next.requests = last.world.requests)) := by
  have survives := Cas.newestSurvives run
  have settled := Cas.settled run
  refine ⟨survives, fun posts => ⟨Cas.Answered.creating_nil queueless posts run, fun finished => ?_⟩⟩
  have created := Cas.onlyCreated posts run
  constructor
  · intro request member
    exact newest_of_group survives settled created finished member
  · intro thread origin streamId cid count next resolves
    exact replace_nothing settled created finished resolves

def twoPosts (task : Task) : Prop := task = post "bafkqaaa" 1 ∨ task = post "bafkqaalb" 2

def olderRequest : Request := loneRequest .PENDING "Request is pending."

def newerRequest : Request :=
  ⟨"2", .PENDING, "bafkqaalb", "kfuxy3vd4lq8", "Request is pending.", true, 0, 0, 2, some "did:key:z6Mk"⟩

/-- Two POST requests of one stream insert first and replace later. -/
theorem markReplaced_keeps_newest_of_two : ∃ last : Cas,
    Reaches (casSystem loneFormats twoPosts) (Cas.start 0) last ∧ last.Answered ∧
      ∃ newest ∈ last.world.requests.rows, newest.status = .PENDING ∧ newest.timestamp = 2 ∧
        ∀ other ∈ last.world.requests.rows, other.InGroup newest.origin newest.streamId →
          other.timestamp ≤ 2 ∧ (other.status = .PENDING → other = newest) := by
  have run : ∃ last : Cas,
      ReachesUnder (casSystem loneFormats twoPosts) (fun _ _ => True) (Cas.start 0) last ∧ last.Answered ∧
        newerRequest ∈ last.world.requests.rows := by
    apply Exists.intro
    constructor
    · apply starts 0 (.inl rfl) rfl trivial
      apply starts 1 (.inr rfl) rfl trivial
      apply resolves 0 (.insertRequest _) (some olderRequest) rfl
      · exact .inr ⟨"1", by rintro column _ old ⟨⟩, rfl, rfl⟩
      · trivial
      apply resolves 1 (.insertRequest _) (some newerRequest) rfl
      · exact .inr ⟨"2", by decide, rfl, rfl⟩
      · trivial
      apply resolves 0 (.markReplaced _ _ _) (1 : Nat) rfl
      · exact ⟨[newerRequest, olderRequest], .swap _ _ _, by decide, rfl, rfl⟩
      · trivial
      apply resolves 0 (.presentBody _) () rfl
      · exact rfl
      · trivial
      apply resolves 1 (.markReplaced _ _ _) (0 : Nat) rfl
      · exact ⟨[newerRequest], .refl _, by decide, rfl, rfl⟩
      · trivial
      apply resolves 1 (.presentBody _) () rfl
      · exact rfl
      · trivial
      exact .refl
    · constructor
      · intro thread program current
        match thread with
        | 0 =>
            obtain rfl := Option.some.inj current
            exact ⟨_, rfl, trivial⟩
        | 1 =>
            obtain rfl := Option.some.inj current
            exact ⟨_, rfl, trivial⟩
        | _ + 2 => cases current
      · exact .tail _ (.head _)
  obtain ⟨last, run, answered, member⟩ := run
  have queueless : ∀ task, twoPosts task → task.Queueless := by
    rintro task (rfl | rfl) <;> rfl
  have posts : ∀ task, twoPosts task → task.IsPost := by
    rintro task (rfl | rfl) <;> trivial
  have kept := (markReplaced_keeps_newest queueless (.of_under run)).2 posts
  obtain ⟨newest, inside, group, pending, only⟩ := (kept.2 (kept.1 answered)).1 newerRequest member
  have same : newerRequest = newest := (only newerRequest member ⟨rfl, rfl⟩).2 rfl
  rw [← same] at only
  exact ⟨last, .of_under run, answered, newerRequest, member, rfl, rfl, only⟩

end Creations

section Reverted

variable {formats : Formats} {deployed : Task → Prop}

/-- Without unfinished creations, only a batch that failed since the last replacement leaves a second
pending request. -/
theorem pending_unique_unless_reverted {clock : Int} {last : Cas}
    (run : Reaches (casSystem formats deployed) (Cas.start clock) last)
    (finished : last.world.history.creating = []) {first second : Request}
    (inFirst : first ∈ last.world.requests.rows) (inSecond : second ∈ last.world.requests.rows)
    (firstPending : first.status = .PENDING) (secondPending : second.status = .PENDING)
    (group : second.InGroup first.origin first.streamId) :
    first = second ∨ first.id ∈ last.world.history.reverted ∨ second.id ∈ last.world.history.reverted := by
  by_cases same : first.id = second.id
  · exact .inl (Table.eq_of_column id_indexed inFirst inSecond same)
  · have excuse := Cas.settled run first inFirst second inSecond firstPending secondPending group same
    have reverted : ∀ request, last.world.history.Excuses request →
        request.id ∈ last.world.history.reverted := by
      rintro request (reverted | ⟨entry, member, _⟩)
      · exact reverted
      · rw [finished] at member
        cases member
    exact .inr (excuse.imp (reverted first) (reverted second))

def postsAndWorker (task : Task) : Prop := twoPosts task ∨ task = .anchorRequests loneWorker 1

/-- A newer request arrives while the batch of the older one is being anchored, and then the batch fails. -/
theorem batch_fails_beside_newer : ∃ last : Cas,
    ReachesUnder (casSystem loneFormats postsAndWorker) (fun _ _ => True) (Cas.start 0) last ∧
      last.world.history.creating = [] ∧ olderRequest ∈ last.world.requests.rows ∧
      newerRequest ∈ last.world.requests.rows := by
  obtain ⟨⟨⟨⟨rows, distinct⟩, anchors, merkleCars, witnessCars, ledger, published, transactions, clock,
    ⟨claimed, creating, reverted⟩⟩, threads⟩, run, running, free, stored, unanchored, _, started,
    finished, _⟩ :=
    @lone_request_claimed postsAndWorker (fun _ _ => True) (.inl (.inl rfl)) (.inr rfl) 0
      (fun _ _ _ _ => trivial) (Int.le_refl 0)
  dsimp only at stored unanchored started finished
  subst stored unanchored started finished
  have fresh : ∀ column ∈ requestColumns, ∀ old ∈ [loneRequest .PROCESSING "Request is pending."],
      column old ≠ column newerRequest := by decide
  apply Exists.intro
  constructor
  · apply run.trans
    apply resolves 1 (.findAnchors _) [] running
    · exact ⟨.refl _, rfl⟩
    · trivial
    apply starts 2 (.inl (.inr rfl)) (by exact free) trivial
    apply resolves 2 (.insertRequest _) (some newerRequest) rfl
    · exact .inr ⟨"2", fresh, rfl, rfl⟩
    · trivial
    apply resolves 2 (.markReplaced _ _ _) (0 : Nat) rfl
    · exact ⟨[newerRequest], .refl _, List.pairwise_singleton _ _, rfl, rfl⟩
    · trivial
    apply resolves 1 (.buildMerkleTree _) loneTree rfl
    · exact ⟨loneTree_treeFor, rfl⟩
    · trivial
    apply ReachesUnder.act 1 (.sendTransaction _) (.error (.rejected "timeout")) rfl
    · exact .inl rfl
    · trivial
    apply resolves 1 .now (0 : Int) rfl
    · exact ⟨rfl, rfl⟩
    · trivial
    apply resolves 1 (.updateRequests _ _ _) (1 : Nat) rfl
    · exact ⟨rfl, rfl⟩
    · trivial
    exact .refl
  · exact ⟨rfl, .head _, .tail _ (.head _)⟩

/-- The failed batch is the reason for the second pending request of this run. -/
theorem pending_unique_unless_reverted_beside_newer : ∃ last : Cas,
    last.world.history.creating = [] ∧ olderRequest ∈ last.world.requests.rows ∧
      newerRequest ∈ last.world.requests.rows ∧
      (olderRequest = newerRequest ∨ olderRequest.id ∈ last.world.history.reverted ∨
        newerRequest.id ∈ last.world.history.reverted) := by
  obtain ⟨last, run, finished, older, newer⟩ := batch_fails_beside_newer
  exact ⟨last, finished, older, newer,
    pending_unique_unless_reverted (.of_under run) finished older newer rfl rfl ⟨rfl, rfl⟩⟩

/-- A failed batch puts an older request beside the newer one that supersedes it. -/
theorem pending_not_unique : ¬ ∀ (formats : Formats) (deployed : Task → Prop),
    (∀ task, deployed task → task.Queueless) → ∀ (clock : Int) (last : Cas),
      Reaches (casSystem formats deployed) (Cas.start clock) last → last.world.history.creating = [] →
      ∀ first ∈ last.world.requests.rows, ∀ second ∈ last.world.requests.rows, first.status = .PENDING →
        second.status = .PENDING → second.InGroup first.origin first.streamId → first = second := by
  intro unique
  obtain ⟨last, run, finished, older, newer⟩ := batch_fails_beside_newer
  have queueless : ∀ task, postsAndWorker task → task.Queueless := by
    rintro task ((rfl | rfl) | rfl) <;> rfl
  have same := unique loneFormats postsAndWorker queueless 0 last (.of_under run) finished olderRequest older
    newerRequest newer rfl rfl ⟨rfl, rfl⟩
  exact absurd same (by decide)

end Reverted

end CeramicAnchor
