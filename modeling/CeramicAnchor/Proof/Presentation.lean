import CeramicAnchor.Construction.RequestPresentationService
import CeramicAnchor.Proof.StoredWitness

/-
This file proves that each presented witness is the one built from the stored Merkle CAR of its anchor.
-/

namespace CeramicAnchor
open Concurrency Storage Prog

theorem remember_cases {memory : Nat → Cid → Option Car} {process other : Nat} {cid key : Cid}
    {car : Option Car}
    {found : Car} (present : Stores.remember memory process cid car other key = some found) :
    (other = process ∧ key = cid ∧ car = some found) ∨ memory other key = some found := by
  unfold Stores.remember at present
  by_cases sameProcess : other = process
  · subst sameProcess
    rw [Function.update_self] at present
    by_cases sameKey : key = cid
    · subst sameKey
      rw [Function.update_self] at present
      exact .inl ⟨rfl, rfl, present⟩
    · rw [Function.update_of_ne sameKey] at present
      exact .inr present
  · rw [Function.update_of_ne sameProcess] at present
    exact .inr present

theorem World.Moves.sameCars {formats : Formats} {thread : Nat} {op : WorldOp} {world next : World}
    (moves : world.Moves formats thread op next) (storesNone : ∀ key car, op ≠ .storeCarFile key car) :
    next.merkleCars = world.merkleCars := by
  cases moves with
  | storeCar => exact absurd rfl (storesNone _ _)
  | _ => rfl

theorem World.Built.keepsCars {world next : World}
    (cars : ∀ proofCid car, world.merkleCars proofCid = some car → next.merkleCars proofCid = some car)
    {anchorCid : Cid} {witnessCAR : Car} (built : world.Built anchorCid witnessCAR) :
    next.Built anchorCid witnessCAR := by
  obtain ⟨proofCid, car, commit, stored, done⟩ := built
  exact ⟨proofCid, car, commit, cars proofCid car stored, done⟩

/-- A process remembers a file that is stored, or that one of its threads is about to store. -/
structure Stores.Good (formats : Formats) (config : StoreConfig) (stores : Stores) : Prop where
  sound : stores.world.Sound formats
  commits : ∀ anchor ∈ stores.world.anchors.rows, CommitOf anchor.cid anchor.proofCid
  items : ∀ cid witnessCAR, stores.items cid = some witnessCAR → stores.world.Built cid witnessCAR
  witnesses : ∀ process cid witnessCAR, stores.witnesses process cid = some witnessCAR →
    stores.world.Built cid witnessCAR
  files : ∀ process key car, stores.files process key = some car → stores.world.merkleCars key = some car ∨
    (stores.world.merkleCars key = none ∧
      ∃ entry ∈ stores.world.ledger, IsProofCid entry.2 key ∧ config.process entry.1 = process)

/-- The thread submitted the transaction of this proof and has stored no file under it. -/
def World.Owns (world : World) (thread : Nat) (key : Cid) : Prop :=
  world.merkleCars key = none ∧ ∃ txHash, (thread, txHash) ∈ world.ledger ∧ IsProofCid txHash key

/-- A thread stores built witnesses, and in the bucket only the file that it has cached. -/
def Presents (formats : Formats) (config : StoreConfig) (thread : Nat) :
    Guarantee StoreOp StoreOp.Reply Failure Stores :=
  fun op before reply after => match op with
    | .world op => (Anchors formats thread op before.world reply after.world ∧
        Witnesses op before.world reply after.world) ∧
        ∀ key car, config.carStorage = .s3 → op = .storeCarFile key car →
          ∀ found, before.files (config.process thread) key = some found → found = car
    | .cacheFile key _ => before.world.Owns thread key
    | .putItem cid witnessCAR => before.world.Built cid witnessCAR
    | .cacheWitness cid witnessCAR => before.world.Built cid witnessCAR
    | _ => True

/-- The others keep the stores good and cache no file of this thread's transaction. -/
structure Stores.KeepsAway (formats : Formats) (config : StoreConfig) (thread : Nat) (first second : Stores) :
    Prop where
  world : first.world.KeepsAway thread second.world
  good : first.Good formats config → second.Good formats config
  files : first.world.Keyed → ∀ key car, first.world.Owns thread key →
    second.files (config.process thread) key = some car → first.files (config.process thread) key = some car

section Moves

variable {formats : Formats} {config : StoreConfig} {thread : Nat} {stores next : Stores}

/-- The key of a transaction belongs to the thread that submitted it. -/
theorem World.Owns.thread_eq {world : World} {other : Nat} {key : Cid} (keyed : world.Keyed)
    (owns : world.Owns thread key) {txHash : Cid} (submitted : (other, txHash) ∈ world.ledger)
    (isProof : IsProofCid txHash key) : other = thread := by
  obtain ⟨_, ownHash, ownSubmitted, ownProof⟩ := owns
  have same : txHash = ownHash := isProofCid_unique isProof ownProof
  exact congrArg Prod.fst (keyed.distinct _ submitted _ ownSubmitted same)

theorem Stores.withWorld_world (op : WorldOp) (world : World) :
    (stores.withWorld config thread op world).world = world := by
  unfold Stores.withWorld
  split <;> rfl

theorem Stores.withWorld_items (op : WorldOp) (world : World) :
    (stores.withWorld config thread op world).items = stores.items := by
  unfold Stores.withWorld
  split <;> rfl

theorem Stores.withWorld_witnesses (op : WorldOp) (world : World) :
    (stores.withWorld config thread op world).witnesses = stores.witnesses := by
  unfold Stores.withWorld
  split <;> rfl

/-- The map in memory gets the stored file and no other entry. -/
theorem Stores.withWorld_files {op : WorldOp} {world : World} {process : Nat} {key : Cid} {car : Car}
    (present : (stores.withWorld config thread op world).files process key = some car) :
    (config.carStorage = .inmemory ∧ process = config.process thread ∧ op = .storeCarFile key car) ∨
      stores.files process key = some car := by
  unfold Stores.withWorld at present
  split at present
  · rename_i inmemory
    rcases remember_cases present with ⟨rfl, rfl, same⟩ | old
    · obtain rfl := Option.some.inj same
      exact .inl ⟨inmemory, rfl, rfl⟩
    · exact .inr old
  · exact .inr present

/-- A good state stays good when the anchoring takes a step. -/
theorem Stores.Good.moves {op : WorldOp} {reply : Except Failure op.Reply} {world : World}
    (good : stores.Good formats config) (moves : stores.world.Moves formats thread op world)
    (anchors : Anchors formats thread op stores.world reply world)
    (witnesses : Witnesses op stores.world reply world)
    (cached : ∀ key car, config.carStorage = .s3 → op = .storeCarFile key car →
      ∀ found, stores.files (config.process thread) key = some found → found = car) :
    (stores.withWorld config thread op world).Good formats config := by
  have cars :
      ∀ proofCid car, stores.world.merkleCars proofCid = some car → world.merkleCars proofCid = some car :=
    fun _ _ stored => moves.keepsCars anchors stored
  constructor
  · rw [Stores.withWorld_world]
    exact good.sound.moves moves anchors
  · rw [Stores.withWorld_world]
    intro anchor member
    cases moves with
    | complete =>
        rcases createAnchors_cases member with old | fresh
        · exact good.commits anchor old
        · exact witnesses anchor fresh
    | _ => exact good.commits anchor member
  · rw [Stores.withWorld_world, Stores.withWorld_items]
    exact fun cid witnessCAR present => (good.items cid witnessCAR present).keepsCars cars
  · rw [Stores.withWorld_world, Stores.withWorld_witnesses]
    exact fun process cid witnessCAR present => (good.witnesses process cid witnessCAR present).keepsCars cars
  · intro process key car present
    rw [Stores.withWorld_world]
    by_cases storing : ∃ file, op = .storeCarFile key file
    · obtain ⟨file, rfl⟩ := storing
      obtain ⟨txHash, submitted, isProof, absent⟩ := anchors
      have owner :
          ∃ entry ∈ world.ledger, IsProofCid entry.2 key ∧ config.process entry.1 = config.process thread :=
        ⟨_, moves.keepsLedger submitted, isProof, rfl⟩
      have owned : process = config.process thread ∧ car = file := by
        rcases Stores.withWorld_files present with ⟨_, same, storesCar⟩ | old
        · injection storesCar with _ sameCar
          exact ⟨same, sameCar.symm⟩
        · rcases good.files process key car old with stored | ⟨_, ⟨other, otherHash⟩, member, otherProof, rfl⟩
          · rw [absent] at stored
            cases stored
          · have owns : stores.world.Owns thread key := ⟨absent, txHash, submitted, isProof⟩
            obtain rfl := owns.thread_eq good.sound.keyed member otherProof
            refine ⟨rfl, ?_⟩
            cases storage : config.carStorage with
            | s3 => exact cached key file storage rfl car old
            | inmemory =>
                simpa [Stores.withWorld, storage, Stores.withFile, Stores.remember] using present.symm
      obtain ⟨rfl, rfl⟩ := owned
      cases moves with
      | storeCar => exact .inl (Function.update_self _ _ _)
      | idle => exact .inr ⟨absent, owner⟩
    · have old : stores.files process key = some car := by
        rcases Stores.withWorld_files present with ⟨_, _, storesCar⟩ | old
        · exact absurd ⟨car, storesCar⟩ storing
        · exact old
      rcases good.files process key car old with stored | ⟨absent, entry, member, isProof, same⟩
      · exact .inl (cars key car stored)
      · refine .inr ⟨?_, entry, moves.keepsLedger member, isProof, same⟩
        cases moves with
        | @storeCar anchorProofCid file =>
            have different : key ≠ anchorProofCid := by
              rintro rfl
              exact storing ⟨file, rfl⟩
            exact (Function.update_of_ne different _ _).trans absent
        | _ => exact absent

/-- A built witness that is handed over changes no table and no file. -/
theorem Stores.Good.handed {cid : Cid} {car : Car} (good : stores.Good formats config) :
    (stores.handed cid car).Good formats config :=
  ⟨⟨⟨good.sound.keyed.keys, good.sound.keyed.distinct⟩, good.sound.proven, good.sound.completed⟩,
    good.commits, good.items, good.witnesses, good.files⟩

theorem Stores.Good.withItem {cid : Cid} {car : Option Car} (good : stores.Good formats config)
    (built : ∀ witnessCAR, car = some witnessCAR → stores.world.Built cid witnessCAR) :
    (stores.withItem cid car).Good formats config := by
  refine ⟨good.sound, good.commits, fun other witnessCAR present => ?_, good.witnesses, good.files⟩
  have present : Function.update stores.items cid car other = some witnessCAR := present
  by_cases same : other = cid
  · subst same
    rw [Function.update_self] at present
    exact built witnessCAR present
  · rw [Function.update_of_ne same] at present
    exact good.items other witnessCAR present

theorem Stores.Good.withWitness {process : Nat} {cid : Cid} {car : Option Car}
    (good : stores.Good formats config)
    (built : ∀ witnessCAR, car = some witnessCAR → stores.world.Built cid witnessCAR) :
    (stores.withWitness process cid car).Good formats config := by
  refine ⟨good.sound, good.commits, good.items, fun other key witnessCAR present => ?_, good.files⟩
  rcases remember_cases present with ⟨_, rfl, same⟩ | old
  · exact built witnessCAR same
  · exact good.witnesses other key witnessCAR old

theorem Stores.Good.withFile {process : Nat} {key : Cid} {car : Option Car}
    (good : stores.Good formats config)
    (owns : car ≠ none → ∃ other, stores.world.Owns other key ∧ config.process other = process) :
    (stores.withFile process key car).Good formats config := by
  refine ⟨good.sound, good.commits, good.items, good.witnesses, fun other cid file present => ?_⟩
  rcases remember_cases present with ⟨rfl, rfl, same⟩ | old
  · obtain ⟨owner, ⟨absent, txHash, submitted, isProof⟩, inProcess⟩ := owns (by simp [same])
    exact .inr ⟨absent, _, submitted, isProof, inProcess⟩
  · exact good.files other cid file old

/-- Every step that meets its guarantee keeps the stores good. -/
theorem Stores.Good.performs {op : StoreOp} {reply : Except Failure op.Reply}
    (good : stores.Good formats config) (performed : op.perform formats config thread stores reply next)
    (presents : Presents formats config thread op stores reply next) : next.Good formats config := by
  cases op with
  | world op =>
      obtain ⟨world, performed, rfl⟩ := performed
      obtain ⟨⟨anchors, witnesses⟩, cached⟩ := presents
      rw [Stores.withWorld_world] at anchors witnesses
      exact good.moves (WorldOp.perform_moves performed) anchors witnesses cached
  | cacheFile key car =>
      obtain ⟨_, rfl⟩ := performed
      exact good.withFile fun _ => ⟨thread, presents, rfl⟩
  | putItem cid car =>
      rcases performed with rfl | ⟨_, rfl⟩
      · refine good.handed.withItem fun witnessCAR same => ?_
        obtain rfl := Option.some.inj same
        exact presents
      · exact good.handed
  | cacheWitness cid car =>
      obtain ⟨_, rfl⟩ := performed
      refine good.handed.withWitness fun witnessCAR same => ?_
      obtain rfl := Option.some.inj same
      exact presents
  | findByRequest request =>
      obtain ⟨rfl, _⟩ := performed
      exact good
  | cachedFile key =>
      obtain ⟨rfl, _⟩ := performed
      exact good
  | getObject key =>
      obtain ⟨rfl, _⟩ := performed
      exact good
  | getItem cid =>
      obtain ⟨rfl, _⟩ := performed
      exact good
  | cachedWitness cid =>
      obtain ⟨rfl, _⟩ := performed
      exact good

/-- The stores drift to good stores. -/
theorem Stores.Good.drifts (good : stores.Good formats config) (drifted : stores.Drifts config next) :
    next.Good formats config := by
  cases drifted with
  | time passed =>
      obtain ⟨later, _, rfl⟩ := passed
      exact ⟨⟨⟨good.sound.keyed.keys, good.sound.keyed.distinct⟩, good.sound.proven, good.sound.completed⟩,
        good.commits, good.items, good.witnesses, good.files⟩
  | evictFile process key _ => exact good.withFile fun some_ => absurd rfl some_
  | evictWitness process cid => exact good.withWitness fun _ same => by cases same
  | expire cid => exact good.withItem fun _ same => by cases same

theorem World.KeepsAway.of_witnesses {world : World} (witnessCars : Cid → Option Car) :
    world.KeepsAway thread { world with witnessCars } :=
  .of_same rfl rfl rfl rfl rfl

theorem Stores.KeepsAway.refl (stores : Stores) : stores.KeepsAway formats config thread stores :=
  ⟨.of_same rfl rfl rfl rfl rfl, id, fun _ _ _ _ present => present⟩

theorem Stores.KeepsAway.trans {first second third : Stores}
    (head : first.KeepsAway formats config thread second)
    (tail : second.KeepsAway formats config thread third) : first.KeepsAway formats config thread third where
  world := head.world.trans tail.world
  good good := tail.good (head.good good)
  files := by
    rintro keyed key car ⟨absent, txHash, submitted, isProof⟩ present
    have still : second.world.Owns thread key :=
      ⟨head.world.own keyed txHash key submitted isProof absent, txHash, head.world.ledger _ submitted,
        isProof⟩
    exact head.files keyed key car ⟨absent, txHash, submitted, isProof⟩
      (tail.files (head.world.keyed keyed) key car still present)

/-- Another thread presents witnesses and stores its own files. -/
theorem Stores.keepsAway {other : Nat} {op : StoreOp} {reply : Except Failure op.Reply}
    (different : thread ≠ other) (performed : op.perform formats config other stores reply next)
    (presents : Presents formats config other op stores reply next) :
    stores.KeepsAway formats config thread next := by
  have good : stores.Good formats config → next.Good formats config :=
    fun good => good.performs performed presents
  cases op with
  | world op =>
      obtain ⟨world, performed, rfl⟩ := performed
      obtain ⟨⟨anchors, _⟩, _⟩ := presents
      rw [Stores.withWorld_world] at anchors
      refine ⟨?_, good, fun keyed key car owns present => ?_⟩
      · rw [Stores.withWorld_world]
        exact (WorldOp.perform_moves performed).keepsAway different anchors
      · rcases Stores.withWorld_files present with ⟨_, _, rfl⟩ | old
        · obtain ⟨txHash, submitted, isProof, _⟩ := anchors
          exact absurd (owns.thread_eq keyed submitted isProof).symm different
        · exact old
  | cacheFile cid file =>
      obtain ⟨_, rfl⟩ := performed
      refine ⟨.of_same rfl rfl rfl rfl rfl, good, fun keyed key car owns present => ?_⟩
      rcases remember_cases present with ⟨_, rfl, _⟩ | old
      · obtain ⟨_, txHash, submitted, isProof⟩ := presents
        exact absurd (owns.thread_eq keyed submitted isProof).symm different
      · exact old
  | putItem cid car =>
      rcases performed with rfl | ⟨_, rfl⟩
      · exact ⟨.of_witnesses _, good, fun _ _ _ _ present => present⟩
      · exact ⟨.of_witnesses _, good, fun _ _ _ _ present => present⟩
  | cacheWitness cid car =>
      obtain ⟨_, rfl⟩ := performed
      exact ⟨.of_witnesses _, good, fun _ _ _ _ present => present⟩
  | findByRequest request =>
      obtain ⟨rfl, _⟩ := performed
      exact .refl _
  | cachedFile key =>
      obtain ⟨rfl, _⟩ := performed
      exact .refl _
  | getObject key =>
      obtain ⟨rfl, _⟩ := performed
      exact .refl _
  | getItem cid =>
      obtain ⟨rfl, _⟩ := performed
      exact .refl _
  | cachedWitness cid =>
      obtain ⟨rfl, _⟩ := performed
      exact .refl _

theorem Stores.Drifts.keepsAway (drifted : stores.Drifts config next) :
    stores.KeepsAway formats config thread next := by
  have good : stores.Good formats config → next.Good formats config := fun good => good.drifts drifted
  cases drifted with
  | time passed =>
      obtain ⟨later, _, rfl⟩ := passed
      exact ⟨.of_same rfl rfl rfl rfl rfl, good, fun _ _ _ _ present => present⟩
  | evictFile process cid _ =>
      refine ⟨.of_same rfl rfl rfl rfl rfl, good, fun _ key car _ present => ?_⟩
      rcases remember_cases present with ⟨_, _, gone⟩ | old
      · cases gone
      · exact old
  | evictWitness process cid => exact ⟨.of_same rfl rfl rfl rfl rfl, good, fun _ _ _ _ present => present⟩
  | expire cid => exact ⟨.of_same rfl rfl rfl rfl rfl, good, fun _ _ _ _ present => present⟩

end Moves

/-- A presented witness belongs to a stored anchor and is built from its Merkle CAR. -/
def Stores.Presented (stores : Stores) (presented : Option FreshAnchor × Option Car) : Prop :=
  ∀ anchor witnessCAR, presented = (some anchor, some witnessCAR) →
    anchor ∈ stores.world.anchors.rows ∧ stores.world.Built anchor.cid witnessCAR

/-- The threads anchor and present on the same stores. -/
def presenting (formats : Formats) (config : StoreConfig) (deployed : Task → Prop) :
    Discipline (storesSystem formats config deployed) where
  rely := Stores.KeepsAway formats config
  rely_refl _ := .refl
  rely_trans := Stores.KeepsAway.trans
  guarantee := Presents formats config
  dormant _ _ := True
  post _ presented stores := stores.Presented presented
  dormant_stable _ _ := trivial
  post_stable := by
    intro thread presented first second others held anchor witnessCAR same
    obtain ⟨stored, built⟩ := held anchor witnessCAR same
    exact ⟨others.world.extends_.anchors anchor stored, built.keepsCars others.world.cars⟩
  sound different performed presents := Stores.keepsAway different performed presents
  drifts drifted := Stores.Drifts.keepsAway drifted

section Threads

variable {formats : Formats} {config : StoreConfig} {deployed : Task → Prop} {thread : Nat} {stores : Stores}

/-- What the anchoring guarantees for one operation. -/
def AnchorsWitnesses (formats : Formats) (thread : Nat) : Guarantee WorldOp WorldOp.Reply Failure World :=
  fun op before reply after => Anchors formats thread op before reply after ∧ Witnesses op before reply after

/-- The stores implement an operation of the anchoring in one step. -/
theorem world_implements (op : WorldOp) {first : Stores} (good : first.Good formats config)
    (allowed : ∀ before, first.world.KeepsAway thread before → ∀ reply after,
      op.perform formats thread before reply after → AnchorsWitnesses formats thread op before reply after)
    (cached : ∀ before, first.KeepsAway formats config thread before → ∀ key car, config.carStorage = .s3 →
      op = .storeCarFile key car → ∀ found, before.files (config.process thread) key = some found →
      found = car) :
    Sat ((presenting formats config deployed).setting thread) (Presents formats config thread)
      (fun value last => last.Good formats config ∧
        Linearizes ((anchoring formats deployed).setting thread) Stores.world op first (.ok value) last)
      (fun error last => last.Good formats config ∧
        Linearizes ((anchoring formats deployed).setting thread) Stores.world op first (.error error) last)
      (Prog.call (StoreOp.world op)) first := by
  have steps :
      ∀ before, first.KeepsAway formats config thread before → ∀ (reply : Except Failure op.Reply) after,
      (StoreOp.world op).perform formats config thread before reply after →
      Presents formats config thread (.world op) before reply after ∧ after.Good formats config ∧
        Linearizes ((anchoring formats deployed).setting thread) Stores.world op first reply after := by
    intro before others reply after performed
    obtain ⟨world, moved, rfl⟩ := id performed
    have presents : Presents formats config thread (.world op) before reply
        (before.withWorld config thread op world) := by
      refine ⟨?_, cached before others⟩
      rw [Stores.withWorld_world]
      exact allowed before.world others.world reply world moved
    refine ⟨presents, (others.good good).performs performed presents, before.world, world, others.world,
      moved, ?_⟩
    rw [Stores.withWorld_world]
    exact .of_same rfl rfl rfl rfl rfl
  exact sat_call (StoreOp.world op)
    (fun before others value after performed => steps before others (.ok value) after performed)
    fun before others error after performed => steps before others (.error error) after performed

/-- A witness that the anchoring hands over is stored as a built witness. -/
theorem store_sat (cid : Cid) (witnessCAR : Car) {first : Stores} (good : first.Good formats config)
    (built : first.world.Built cid witnessCAR) (holds : Stores → Prop)
    (established : ∀ before after, first.KeepsAway formats config thread before →
      after.world = (before.handed cid witnessCAR).world → after.Good formats config → holds after) :
    Sat ((presenting formats config deployed).setting thread) (Presents formats config thread)
      (fun _ => holds) (fun _ _ => False) (WitnessService.store config.witnessStorage cid witnessCAR)
      first := by
  have stays : ∀ before, first.KeepsAway formats config thread before → before.world.Built cid witnessCAR :=
    fun before others => built.keepsCars others.world.cars
  unfold WitnessService.store
  split
  · have steps : ∀ before, first.KeepsAway formats config thread before → ∀ reply after,
        (StoreOp.cacheWitness cid witnessCAR).perform formats config thread before reply after →
        Presents formats config thread (.cacheWitness cid witnessCAR) before reply after ∧ reply = .ok () ∧
          holds after := by
      intro before others reply after performed
      have presents : Presents formats config thread (.cacheWitness cid witnessCAR) before reply after :=
        stays before others
      have kept := (others.good good).performs performed presents
      obtain ⟨answered, rfl⟩ := performed
      exact ⟨presents, answered, established before _ others rfl kept⟩
    refine sat_call (StoreOp.cacheWitness cid witnessCAR) ?_ ?_
    · intro before others value after performed
      obtain ⟨presents, _, held⟩ := steps before others (.ok value) after performed
      exact ⟨presents, held⟩
    · intro before others error after performed
      obtain ⟨_, answered, _⟩ := steps before others (.error error) after performed
      cases answered
  · refine sat_handle (fun _ => holds) ?_ fun _ _ held => held
    have steps : ∀ before, first.KeepsAway formats config thread before → ∀ reply after,
        (StoreOp.putItem cid witnessCAR).perform formats config thread before reply after →
        Presents formats config thread (.putItem cid witnessCAR) before reply after ∧ holds after := by
      intro before others reply after performed
      have presents : Presents formats config thread (.putItem cid witnessCAR) before reply after :=
        stays before others
      have kept := (others.good good).performs performed presents
      refine ⟨presents, ?_⟩
      rcases performed with rfl | ⟨_, rfl⟩
      · exact established before _ others rfl kept
      · exact established before _ others rfl kept
    exact sat_call (StoreOp.putItem cid witnessCAR)
      (fun before others value after performed => steps before others (.ok value) after performed)
      fun before others error after performed => steps before others (.error error) after performed

/-- The services implement the operations of the anchoring. -/
theorem implementation_implements (op : WorldOp) :
    Implements ((anchoring formats deployed).setting thread) (AnchorsWitnesses formats thread)
      ((presenting formats config deployed).setting thread) (Presents formats config thread) Stores.world
      (Stores.Good formats config) op (config.implementation op) := by
  intro first good allowed
  cases op with
  | storeCarFile key car =>
      have storing : ∀ before, first.world.KeepsAway thread before → before.Owns thread key := by
        intro before others
        obtain ⟨⟨txHash, submitted, isProof, absent⟩, _⟩ := allowed before others (.ok ()) _ rfl
        exact ⟨absent, txHash, submitted, isProof⟩
      change Sat _ _ _ _ (MerkleCarService.storeCarFile config.carStorage key car) first
      cases storage : config.carStorage with
      | inmemory =>
          refine world_implements _ good allowed ?_
          intro _ _ _ _ s3
          rw [storage] at s3
          cases s3
      | s3 =>
          refine sat_bind
            (fun _ middle => first.world.KeepsAway thread middle.world ∧ middle.Good formats config ∧
            middle.files (config.process thread) key = some car) ?_ ?_
          · refine sat_call (StoreOp.cacheFile key car) ?_ ?_
            · intro before others value after performed
              have cached :
                  (StoreOp.cacheFile key car).perform formats config thread before (.ok value) after :=
                performed
              have presents : Presents formats config thread (.cacheFile key car) before (.ok value) after :=
                storing before.world others.world
              have kept := (others.good good).performs cached presents
              obtain ⟨_, rfl⟩ := cached
              refine ⟨presents, others.world, kept, ?_⟩
              simp [Stores.withFile, Stores.remember]
            · rintro before others error after ⟨answered, _⟩
              cases answered
          · rintro _ middle ⟨since, stillGood, cached⟩
            have further := fun before (others : middle.world.KeepsAway thread before) =>
              allowed before (since.trans others)
            refine sat_results (world_implements _ stillGood further ?_) ?_ ?_
            · intro before others otherKey otherCar _ same found present
              injection same with sameKey sameCar
              rw [← sameKey] at present
              have own := others.files stillGood.sound.keyed key found (storing middle.world since) present
              rw [cached] at own
              rw [← Option.some.inj own, sameCar]
            · rintro value last ⟨kept, before, after, others, performed, later⟩
              exact ⟨kept, before, after, since.trans others, performed, later⟩
            · rintro error last ⟨kept, before, after, others, performed, later⟩
              exact ⟨kept, before, after, since.trans others, performed, later⟩
  | storeWitness cid witnessCAR =>
      obtain ⟨_, built⟩ := allowed first.world (.of_same rfl rfl rfl rfl rfl) (.ok ()) _ rfl
      have stored := @store_sat formats config deployed thread cid witnessCAR first good built
        (fun last => last.Good formats config ∧
          Linearizes ((anchoring formats deployed).setting thread) Stores.world
          (.storeWitness cid witnessCAR) first (.ok ()) last) ?_
      · exact sat_results stored (fun _ _ held => held) fun _ _ impossible =>
          impossible.elim
      · intro before after others handed kept
        refine ⟨kept, before.world, after.world, others.world, handed, .of_same rfl rfl rfl rfl rfl⟩
  | _ =>
      refine world_implements _ good allowed ?_
      intro before others key car _ same
      cases same

/-- A task stays safe when the services store its files and its witnesses. -/
theorem task_safe (task : Task) (good : stores.Good formats config) :
    (presenting formats config deployed).Safe thread (do
      let _ ← (task.run formats).implement config.implementation
      pure (none, none)) stores := by
  have anchored := @Task.run_anchoring formats deployed thread stores.world task good.sound.keyed
  have witnessed := @Task.run_witnesses formats deployed thread stores.world task
  have implemented :=
    sat_implement implementation_implements (fun _ _ _ _ held => held) (fun _ _ _ _ held => held)
    good (sat_and anchored witnessed)
  refine sat_bind (fun _ _ => True) (sat_results implemented (fun _ _ _ => trivial)
    fun _ _ _ => trivial) fun _ _ _ => ?_
  intro anchor witnessCAR same
  cases same

/-- The stores are good, and the anchor is one of theirs. -/
structure Stores.Knows (formats : Formats) (config : StoreConfig) (anchor : FreshAnchor)
    (stores : Stores) : Prop where
  good : stores.Good formats config
  stored : anchor ∈ stores.world.anchors.rows

theorem Stores.Knows.keepsAway {anchor : FreshAnchor} {first second : Stores}
    (knows : first.Knows formats config anchor) (others : first.KeepsAway formats config thread second) :
    second.Knows formats config anchor :=
  ⟨others.good knows.good, others.world.extends_.anchors anchor knows.stored⟩

/-- The stored file of a known anchor is the only one that a process remembers under its proof. -/
theorem Stores.Knows.file {anchor : FreshAnchor} (knows : stores.Knows formats config anchor) {process : Nat}
    {car : Car} (cached : stores.files process anchor.proofCid = some car) :
    stores.world.merkleCars anchor.proofCid = some car := by
  rcases knows.good.files process anchor.proofCid car cached with stored | ⟨absent, _⟩
  · exact stored
  · obtain ⟨_, _, _, file, stored, _⟩ := knows.good.sound.proven anchor knows.stored
    rw [absent] at stored
    cases stored

/-- A read changes nothing, and what it returns is true of the state that it reads. -/
theorem read_sat {op : StoreOp} {returned : op.Reply → Stores → Prop} (holds : Stores → Prop)
    (stable : ∀ {first second : Stores}, first.KeepsAway formats config thread second → holds first →
      holds second)
    (silent : ∀ before reply after, Presents formats config thread op before reply after)
    (reads : ∀ before, holds before → ∀ reply after, op.perform formats config thread before reply after →
      after = before ∧ ∀ value, reply = .ok value → returned value before) (held : holds stores) :
    Sat ((presenting formats config deployed).setting thread) (Presents formats config thread)
      (fun value reached => holds reached ∧ returned value reached) (fun _ => holds) (Prog.call op)
      stores := by
  refine sat_call op ?_ ?_
  · intro before others value after performed
    have here := stable others held
    obtain ⟨rfl, read⟩ := reads before here (.ok value) after performed
    exact ⟨silent _ _ _, here, read value rfl⟩
  · intro before others error after performed
    have here := stable others held
    obtain ⟨rfl, _⟩ := reads before here (.error error) after performed
    exact ⟨silent _ _ _, here⟩

variable {anchor : FreshAnchor}

/-- A witness that the store returns was built from the stored file. -/
theorem get_sat (knows : stores.Knows formats config anchor) :
    Sat ((presenting formats config deployed).setting thread) (Presents formats config thread)
      (fun found reached => reached.Knows formats config anchor ∧
        ∀ witnessCAR, found = some witnessCAR → reached.world.Built anchor.cid witnessCAR)
      (fun _ => Stores.Knows formats config anchor)
      (WitnessService.get config.witnessStorage anchor.cid) stores := by
  unfold WitnessService.get
  split
  · apply @read_sat formats config deployed thread stores (.cachedWitness anchor.cid)
      (fun found reached => ∀ witnessCAR, found = some witnessCAR → reached.world.Built anchor.cid witnessCAR)
    · exact fun others knows => knows.keepsAway others
    · exact fun _ _ _ => trivial
    · rintro before here reply after ⟨rfl, answered⟩
      refine ⟨rfl, fun value same witnessCAR found => ?_⟩
      obtain rfl := Except.ok.inj (answered.symm.trans same)
      exact here.good.witnesses _ _ _ found
    · exact knows
  · refine sat_handle (fun _ => Stores.Knows formats config anchor) ?_ fun _ reached still => ⟨still, by simp⟩
    apply @read_sat formats config deployed thread stores (.getItem anchor.cid)
      (fun found reached => ∀ witnessCAR, found = some witnessCAR → reached.world.Built anchor.cid witnessCAR)
    · exact fun others knows => knows.keepsAway others
    · exact fun _ _ _ => trivial
    · rintro before here reply after ⟨rfl, answered⟩
      refine ⟨rfl, fun value same witnessCAR found => ?_⟩
      rcases answered value same with rfl | rfl
      · cases found
      · exact here.good.items _ _ found
    · exact knows

theorem cachedFile_sat (knows : stores.Knows formats config anchor) :
    Sat ((presenting formats config deployed).setting thread) (Presents formats config thread)
      (fun (found : Option Car) reached => reached.Knows formats config anchor ∧
        ∀ car, found = some car → reached.world.merkleCars anchor.proofCid = some car)
      (fun _ => Stores.Knows formats config anchor) (Prog.call (StoreOp.cachedFile anchor.proofCid))
      stores := by
  apply @read_sat formats config deployed thread stores (.cachedFile anchor.proofCid)
    (fun (found : Option Car) reached => ∀ car, found = some car →
      reached.world.merkleCars anchor.proofCid = some car)
  · exact fun others knows => knows.keepsAway others
  · exact fun _ _ _ => trivial
  · rintro before here reply after ⟨rfl, answered⟩
    refine ⟨rfl, fun value same car found => ?_⟩
    obtain rfl := Except.ok.inj (answered.symm.trans same)
    exact here.file found
  · exact knows

theorem retrieveObject_sat (knows : stores.Knows formats config anchor) :
    Sat ((presenting formats config deployed).setting thread) (Presents formats config thread)
      (fun (found : Option Car) reached => reached.Knows formats config anchor ∧
        ∀ car, found = some car → reached.world.merkleCars anchor.proofCid = some car)
      (fun _ => Stores.Knows formats config anchor) (MerkleCarService.retrieveObject anchor.proofCid)
      stores := by
  refine sat_handle (fun _ => Stores.Knows formats config anchor) ?_ fun _ reached still => ⟨still, by simp⟩
  refine sat_bind (fun (car : Car) reached => reached.Knows formats config anchor ∧
    reached.world.merkleCars anchor.proofCid = some car) ?_ fun car reached found => ?_
  · apply @read_sat formats config deployed thread stores (.getObject anchor.proofCid)
      (fun (car : Car) reached => reached.world.merkleCars anchor.proofCid = some car)
    · exact fun others knows => knows.keepsAway others
    · exact fun _ _ _ => trivial
    · rintro before here reply after ⟨rfl, answered⟩
      exact ⟨rfl, fun car same => answered car same⟩
    · exact knows
  · refine ⟨found.1, fun other same => ?_⟩
    obtain rfl := Option.some.inj same
    exact found.2

/-- A retrieved file is the stored file of the anchor. -/
theorem retrieveCarFile_sat (knows : stores.Knows formats config anchor) :
    Sat ((presenting formats config deployed).setting thread) (Presents formats config thread)
      (fun found reached => reached.Knows formats config anchor ∧
        ∀ car, found = some car → reached.world.merkleCars anchor.proofCid = some car)
      (fun _ => Stores.Knows formats config anchor)
      (MerkleCarService.retrieveCarFile config.carStorage anchor.proofCid) stores := by
  unfold MerkleCarService.retrieveCarFile
  split
  · exact cachedFile_sat knows
  · refine sat_bind _ (cachedFile_sat knows) fun fromCache reached found => ?_
    cases fromCache with
    | none => exact retrieveObject_sat found.1
    | some car => exact found

/-- The witness is built from the stored file, and it stays built while it is stored. -/
theorem buildAndStore_sat (knows : stores.Knows formats config anchor) {merkleCAR : Car}
    (stored : stores.world.merkleCars anchor.proofCid = some merkleCAR) :
    Sat ((presenting formats config deployed).setting thread) (Presents formats config thread)
      (fun found reached => reached.Presented (some anchor, found)) (fun _ _ => True)
      (RequestPresentationService.buildAndStore config anchor merkleCAR) stores := by
  unfold RequestPresentationService.buildAndStore
  split
  · trivial
  · rename_i witnessCAR done
    have commit : CommitOf anchor.cid anchor.proofCid := knows.good.commits anchor knows.stored
    have built : stores.world.Built anchor.cid witnessCAR :=
      ⟨anchor.proofCid, merkleCAR, commit, stored, done⟩
    have storing := @store_sat formats config deployed thread anchor.cid witnessCAR stores knows.good built
      (fun reached => reached.Presented (some anchor, some witnessCAR)) ?_
    · refine sat_bind _
        (sat_results storing (fun _ _ held => held) fun _ _ _ => trivial) ?_
      exact fun _ _ presented => presented
    · intro before after others handed _ other found same
      obtain ⟨sameAnchor, sameWitness⟩ := Prod.mk.inj same
      rw [← Option.some.inj sameAnchor, ← Option.some.inj sameWitness, handed]
      have here := knows.keepsAway others
      exact ⟨here.stored, built.keepsCars others.world.cars⟩

theorem witnessCAR_sat (knows : stores.Knows formats config anchor) :
    Sat ((presenting formats config deployed).setting thread) (Presents formats config thread)
      (fun found reached => reached.Presented (some anchor, found)) (fun _ _ => True)
      (RequestPresentationService.witnessCAR config (some anchor)) stores := by
  have absent : ∀ reached : Stores, reached.Presented (some anchor, none) := by
    intro reached other witnessCAR same
    cases same
  refine sat_bind _ (sat_results (get_sat knows) (fun _ _ held => held)
    fun _ _ _ => trivial) fun fromCache reached found => ?_
  cases fromCache with
  | some witnessCAR =>
      intro other cached same
      obtain ⟨sameAnchor, sameWitness⟩ := Prod.mk.inj same
      rw [← Option.some.inj sameAnchor, ← Option.some.inj sameWitness]
      exact ⟨found.1.stored, found.2 witnessCAR rfl⟩
  | none =>
      refine sat_bind _
        (sat_results (retrieveCarFile_sat found.1) (fun _ _ held => held)
        fun _ _ _ => trivial) fun merkleCAR retrieved known => ?_
      cases merkleCAR with
      | none => exact absent retrieved
      | some merkleCAR => exact buildAndStore_sat known.1 (known.2 merkleCAR rfl)

/-- A lookup presents a witness of a stored anchor. -/
theorem response_safe (request : Request) (good : stores.Good formats config) :
    (presenting formats config deployed).Safe thread
    (RequestPresentationService.response config request) stores := by
  unfold RequestPresentationService.response
  split
  · have finds : Sat ((presenting formats config deployed).setting thread) (Presents formats config thread)
        (fun (found : Option FreshAnchor) reached => reached.Good formats config ∧
          ∀ anchor, found = some anchor → anchor ∈ reached.world.anchors.rows)
        (fun _ => Stores.Good formats config) (Prog.call (StoreOp.findByRequest request)) stores := by
      apply @read_sat formats config deployed thread stores (.findByRequest request)
        (fun (found : Option FreshAnchor) reached => ∀ anchor, found = some anchor →
          anchor ∈ reached.world.anchors.rows)
      · exact fun others good => others.good good
      · exact fun _ _ _ => trivial
      · rintro before here reply after ⟨rfl, answered⟩
        refine ⟨rfl, fun value same anchor found => ?_⟩
        rw [answered value same] at found
        exact (Table.lookup_mem found).1
      · exact good
    refine sat_bind _ (sat_results finds (fun _ _ held => held) fun _ _ _ => trivial)
      fun found reached known => ?_
    · cases found with
      | none =>
          intro anchor witnessCAR same
          cases same
      | some anchor => exact sat_bind _ (witnessCAR_sat ⟨known.1, known.2 anchor rfl⟩) fun _ _ held => held
  · intro anchor witnessCAR same
    cases same

end Threads

section Runs

variable {formats : Formats} {config : StoreConfig} {deployed : Task → Prop} {clock : Int}
  {pool : Pool StoreOp StoreOp.Reply Failure (Option FreshAnchor × Option Car) Stores}

/-- The stores are good in every run, and what the lookups have presented is built. -/
theorem reaches_good
    (run : Reaches (storesSystem formats config deployed) (.idle (Stores.start clock)) pool) :
    pool.world.Good formats config ∧ (presenting formats config deployed).AllSafe pool := by
  have started : (Stores.start clock).Good formats config := by
    refine ⟨⟨⟨?_, ?_⟩, ?_, ?_⟩, ?_, ?_, ?_, ?_⟩
    · rintro proofCid car ⟨⟩
    · rintro first ⟨⟩
    · rintro anchor ⟨⟩
    · rintro request ⟨⟩
    · rintro anchor ⟨⟩
    · rintro cid witnessCAR ⟨⟩
    · rintro process cid witnessCAR ⟨⟩
    · rintro process key car ⟨⟩
  apply (presenting formats config deployed).invariant (Stores.Good formats config)
  · rintro thread program stores good _ (⟨task, _, rfl⟩ | ⟨request, rfl⟩)
    · exact task_safe task good
    · exact response_safe request good
  · exact fun good performed presents => good.performs performed presents
  · exact fun good drifted => good.drifts drifted
  · exact run
  · exact started
  · exact fun _ => trivial

/-- A presented witness is the one that is built now from the stored Merkle CAR of its anchor. -/
theorem witnessCAR_agrees
    (run : Reaches (storesSystem formats config deployed) (.idle (Stores.start clock)) pool) {thread : Nat}
    {anchor : FreshAnchor} {witnessCAR : Car}
    (answered : pool.threads thread = some (.done (some anchor, some witnessCAR))) :
    anchor ∈ pool.world.world.anchors.rows ∧ ∃ merkleCAR rebuilt,
      pool.world.world.merkleCars anchor.proofCid = some merkleCAR ∧
      WitnessService.build anchor.cid merkleCAR = .ok rebuilt ∧ witnessCAR.roots = rebuilt.roots ∧
      ∀ block, block ∈ witnessCAR.blocks ↔ block ∈ rebuilt.blocks := by
  obtain ⟨good, safe⟩ := reaches_good run
  have presented : pool.world.Presented (some anchor, some witnessCAR) := safe.started answered
  obtain ⟨stored, proofCid, merkleCAR, commit, present, built⟩ := presented anchor witnessCAR rfl
  obtain rfl := commitOf_unique commit (good.commits anchor stored)
  exact ⟨stored, merkleCAR, witnessCAR, present, built, rfl, fun _ => Iff.rfl⟩

/-- One process keeps everything in its memory. -/
def loneStores : StoreConfig := ⟨.inmemory, .inmemory, fun _ => 0⟩

def anchoringThread (program : Code (Option Response)) : StoreCode (Option FreshAnchor × Option Car) := do
  let _ ← program.implement loneStores.implementation
  pure (none, none)

/-- The stores follow a run of the anchoring. -/
structure Follows (cas : Cas)
    (pool : Pool StoreOp StoreOp.Reply Failure (Option FreshAnchor × Option Car) Stores) :
    Prop where
  world : pool.world.world = cas.world
  files : pool.world.files 0 = cas.world.merkleCars
  free : ∀ thread, cas.threads thread = none → pool.threads thread = none
  running : ∀ thread program, cas.threads thread = some program →
    pool.threads thread = some (anchoringThread program)

theorem Follows.resume {cas : Cas} (follows : Follows cas pool) (thread : Nat)
    (program : Code (Option Response))
    {world : World} {stores : Stores} (sameWorld : stores.world = world)
    (sameFiles : stores.files 0 = world.merkleCars) :
    Follows (cas.resume thread program world) (pool.resume thread (anchoringThread program) stores) := by
  refine ⟨sameWorld, sameFiles, fun other none_ => ?_, fun other residue current => ?_⟩
  · by_cases same : other = thread
    · subst same
      simp [Pool.resume] at none_
    · simp only [Pool.resume, Function.update_of_ne same] at none_ ⊢
      exact follows.free other none_
  · by_cases same : other = thread
    · subst same
      simp only [Pool.resume, Function.update_self] at current ⊢
      rw [Option.some.inj current]
    · simp only [Pool.resume, Function.update_of_ne same] at current ⊢
      exact follows.running other residue current

/-- An operation that the services pass on is the first operation of the thread. -/
theorem anchoringThread_ask {op : WorldOp}
    (direct : loneStores.implementation op = Prog.call (StoreOp.world op))
    (rest : Except Failure op.Reply → Code (Option Response)) :
    anchoringThread (.ask op rest) = .ask (.world op) fun reply => anchoringThread (rest reply) := by
  unfold anchoringThread
  rw [Prog.implement, direct]
  change Prog.ask (StoreOp.world op) _ = Prog.ask (StoreOp.world op) _
  congr 1
  funext reply
  cases reply <;> rfl

/-- The stores follow an operation that the services pass on. -/
theorem Follows.acts {cas : Cas} (follows : Follows cas pool) {op : WorldOp}
    (direct : loneStores.implementation op = Prog.call (StoreOp.world op))
    (storesNone : ∀ key car, op ≠ .storeCarFile key car) {thread : Nat} {reply : Except Failure op.Reply}
    {rest : Except Failure op.Reply → Code (Option Response)} {world : World}
    (running : pool.threads thread = some (anchoringThread (.ask op rest)))
    (moved : op.perform loneFormats thread pool.world.world reply world) :
    ∃ next, Step (storesSystem loneFormats loneStores deployed) pool (.act thread (.world op) reply) next ∧
      Follows (cas.resume thread (rest reply) world) next := by
  rw [anchoringThread_ask direct] at running
  refine ⟨_, .act running ⟨world, moved, rfl⟩,
    follows.resume thread (rest reply) (Stores.withWorld_world op world) ?_⟩
  have sameFiles : (pool.world.withWorld loneStores thread op world).files = pool.world.files := by
    unfold Stores.withWorld
    split
    · exact absurd rfl (storesNone _ _)
    · rfl
  rw [sameFiles, follows.files, (WorldOp.perform_moves moved).sameCars storesNone, follows.world]

theorem follow_run {cas : Cas}
    (run : ReachesUnder (casSystem loneFormats deployed) (fun _ label => Resolved label)
      (Cas.start clock) cas) :
    ∃ pool, Reaches (storesSystem loneFormats loneStores deployed) (.idle (Stores.start clock)) pool ∧
      Follows cas pool := by
  induction run with
  | refl => exact ⟨_, .refl, rfl, rfl, fun _ _ => rfl, by rintro thread program ⟨⟩⟩
  | @tail middle next _ step ih =>
      obtain ⟨pool, reached, follows⟩ := ih
      obtain ⟨label, step, resolved⟩ := step
      cases step with
      | @start thread program free allowed =>
          obtain ⟨task, deploys, rfl⟩ := allowed
          refine ⟨_, reached.tail ⟨_, .start (follows.free thread free) (.inl ⟨task, deploys, rfl⟩)⟩, ?_⟩
          exact follows.resume thread _ follows.world follows.files
      | @act thread op rest reply world current performed =>
          obtain ⟨value, rfl⟩ := resolved
          have running := follows.running thread _ current
          have moved : op.perform loneFormats thread pool.world.world (.ok value) world := by
            rw [follows.world]
            exact performed
          have moves := WorldOp.perform_moves moved
          cases op with
          | storeCarFile key car =>
              obtain rfl : world = _ := performed
              refine ⟨_, reached.tail ⟨.act thread (.world (.storeCarFile key car)) (.ok ()),
                .act running ⟨_, moved, rfl⟩⟩, ?_⟩
              refine follows.resume thread (rest (.ok value)) rfl ?_
              change Stores.remember pool.world.files 0 key (some car) 0 = _
              rw [Stores.remember, Function.update_self, follows.files]
          | storeWitness cid car =>
              obtain rfl : world = _ := performed
              refine ⟨_,
                reached.tail ⟨.act thread (.cacheWitness cid car) (.ok ()), .act running ⟨rfl, rfl⟩⟩, ?_⟩
              refine follows.resume thread (rest (.ok value)) ?_ follows.files
              change (pool.world.handed cid car).world = _
              rw [Stores.handed, follows.world]
          | _ =>
              obtain ⟨next, acted, follows⟩ :=
                follows.acts rfl (fun key car same => by cases same) running moved
              exact ⟨next, reached.tail ⟨_, acted⟩, follows⟩
      | @drift world moved =>
          have passed : pool.world.world.Drifts world := by
            rw [follows.world]
            exact moved
          refine ⟨_, reached.tail ⟨_, .drift (.time passed)⟩, rfl, ?_, follows.free, follows.running⟩
          obtain ⟨later, _, rfl⟩ := moved
          exact follows.files

/-- A lookup rebuilds the witness that was evicted. -/
theorem response_rebuilds {thread : Nat} (free : pool.threads thread = none) {request : Request}
    (completed : request.status = .COMPLETED) {anchor : FreshAnchor} {merkleCAR witnessCAR : Car}
    (found : pool.world.world.anchors.lookup FreshAnchor.requestId request.id = some anchor)
    (filed : pool.world.files 0 anchor.proofCid = some merkleCAR)
    (built : WitnessService.build anchor.cid merkleCAR = .ok witnessCAR) :
    ∃ last, Reaches (storesSystem loneFormats loneStores deployed) pool last ∧
      last.threads thread = some (.done (some anchor, some witnessCAR)) := by
  have resumed :
      ∀ (start : Pool StoreOp StoreOp.Reply Failure (Option FreshAnchor × Option Car) Stores) program
      stores, (start.resume thread program stores).threads thread = some program :=
    fun _ _ _ => Function.update_self _ _ _
  have respond : RequestPresentationService.response loneStores request =
      .ask (.findByRequest request) fun reply => (match reply with
        | .ok found => do
            let witnessCAR ← RequestPresentationService.witnessCAR loneStores found
            pure (found, witnessCAR)
        | .error error => .fail error) := by
    unfold RequestPresentationService.response
    rw [if_pos completed]
    change Prog.ask _ _ = Prog.ask _ _
    congr 1
    funext reply
    cases reply <;> rfl
  have stores : RequestPresentationService.buildAndStore loneStores anchor merkleCAR =
      .ask (.cacheWitness anchor.cid witnessCAR) fun reply => (match reply with
        | .ok _ => .done (some witnessCAR)
        | .error error => .fail error) := by
    unfold RequestPresentationService.buildAndStore
    rw [built]
    change Prog.ask _ _ = Prog.ask _ _
    congr 1
    funext reply
    cases reply <;> rfl
  let evicted : Pool StoreOp StoreOp.Reply Failure (Option FreshAnchor × Option Car) Stores :=
    { pool with world := pool.world.withWitness 0 anchor.cid none }
  have stillFree : evicted.threads thread = none := free
  have run :
      ∃ last, ReachesUnder (storesSystem loneFormats loneStores deployed) (fun _ _ => True) evicted last ∧
      last.threads thread = some (.done (some anchor, some witnessCAR)) := by
    apply Exists.intro
    constructor
    · apply ReachesUnder.start thread (Or.inr ⟨request, rfl⟩) stillFree trivial
      apply ReachesUnder.act thread (StoreOp.findByRequest request) (.ok (some anchor))
        ((resumed _ _ _).trans (congrArg some respond))
      · refine ⟨rfl, fun other same => ?_⟩
        rw [← Except.ok.inj same]
        exact found.symm
      · trivial
      apply ReachesUnder.act thread (StoreOp.cachedWitness anchor.cid) (.ok none) (resumed _ _ _)
      · refine ⟨rfl, ?_⟩
        change _ = Except.ok (Stores.remember pool.world.witnesses 0 anchor.cid none 0 anchor.cid)
        rw [Stores.remember, Function.update_self, Function.update_self]
      · trivial
      apply ReachesUnder.act thread (StoreOp.cachedFile anchor.proofCid) (.ok (some merkleCAR))
        (resumed _ _ _)
      · exact ⟨rfl, congrArg Except.ok filed.symm⟩
      · trivial
      apply ReachesUnder.act thread (StoreOp.cacheWitness anchor.cid witnessCAR) (.ok ())
      · refine (resumed _ _ _).trans (congrArg some ?_)
        change (RequestPresentationService.buildAndStore loneStores anchor merkleCAR >>= fun witnessCAR =>
          pure (some anchor, witnessCAR)) = _
        rw [stores]
        rfl
      · exact ⟨rfl, rfl⟩
      · trivial
      exact .refl
    · exact resumed _ _ _
  obtain ⟨last, run, finished⟩ := run
  exact ⟨last, .head ⟨.drift, .drift (.evictWitness 0 anchor.cid)⟩ (Reaches.of_under run), finished⟩

/-- The anchored request is presented with a witness that is rebuilt. -/
theorem witnessCAR_agrees_rebuilt :
    ∃ (pool : Pool StoreOp StoreOp.Reply Failure (Option FreshAnchor × Option Car) Stores) (thread : Nat)
      (anchor : FreshAnchor) (witnessCAR merkleCAR rebuilt : Car),
      Reaches (storesSystem loneFormats loneStores fun _ => True) (.idle (Stores.start 0)) pool ∧
      pool.threads thread = some (.done (some anchor, some witnessCAR)) ∧
      pool.world.world.merkleCars anchor.proofCid = some merkleCAR ∧
      WitnessService.build anchor.cid merkleCAR = .ok rebuilt ∧
      ∀ block, block ∈ witnessCAR.blocks ↔ block ∈ rebuilt.blocks := by
  obtain ⟨cas, anchored, _, request, rows, _, completed⟩ :=
    @lone_request_completed (fun _ => True) (fun _ label => Resolved label) trivial trivial
      fun _ _ resolved _ => resolved
  obtain ⟨pool, reached, follows⟩ := follow_run anchored
  obtain ⟨good, _⟩ := reaches_good reached
  have member : request ∈ pool.world.world.requests.rows := by simp [follows.world, rows]
  obtain ⟨anchor, stored, ofRequest⟩ := good.sound.completed request member completed
  obtain ⟨_, _, _, merkleCAR, present, _, _, _, _, _, _, holds⟩ := good.sound.proven anchor stored
  obtain ⟨witnessCAR, built, _⟩ := WitnessService.verify_build holds
  obtain ⟨bound, free⟩ := reached.free_above
  have found : pool.world.world.anchors.lookup FreshAnchor.requestId request.id = some anchor :=
    (Table.lookup_eq_some (by simp)).mpr ⟨stored, ofRequest⟩
  have filed : pool.world.files 0 anchor.proofCid = some merkleCAR := by
    rw [follows.files, ← follows.world]
    exact present
  obtain ⟨last, run, finished⟩ :=
    response_rebuilds (free bound (Nat.le_refl bound)) completed found filed built
  have whole : Reaches (storesSystem loneFormats loneStores fun _ => True) (.idle (Stores.start 0)) last :=
    reached.trans run
  obtain ⟨_, merkleCAR, rebuilt, present, built, _, same⟩ := witnessCAR_agrees whole finished
  exact ⟨last, bound, anchor, witnessCAR, merkleCAR, rebuilt, whole, finished, present, built, same⟩

end Runs

end CeramicAnchor
