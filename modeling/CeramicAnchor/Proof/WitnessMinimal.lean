import CeramicAnchor.Proof.Witness

/-
This file proves that a built witness CAR has the blocks of its Merkle path and cannot miss any of them.
-/

namespace CeramicAnchor

/-- A block is dropped from the CAR file and its roots stay. -/
def Car.without (car : Car) (block : Ipld) : Car :=
  { car with blocks := car.blocks.filter (· ≠ block) }

theorem Car.get_without (car : Car) (block : Ipld) : (car.without block).get (.record block) = none := by
  cases found : (car.without block).get (.record block) with
  | none => rfl
  | some other =>
      obtain ⟨member, same⟩ := Car.get_eq_some.mp found
      obtain rfl := Cid.record.inj same
      simp [Car.without] at member

theorem Car.mem_of_without {car : Car} {block : Ipld} :
    ∀ other ∈ (car.without block).blocks, other ∈ car.blocks :=
  fun _ member => List.mem_of_mem_filter member

section Trail

variable {C : Type} [CarFile C] {car : C} {record : Ipld} {line : List PathDirection} {nodes : List Cid}
    {leaf : Cid}

theorem Trail.present (trail : Trail car record line nodes leaf) :
    ∀ cid ∈ nodes, ∃ block, CarFile.get car cid = some block := by
  induction trail with
  | last _ => simp
  | @step _ child _ _ _ _ _ _ present _ ih =>
      intro cid member
      rcases List.mem_cons.mp member with rfl | member
      · exact ⟨child, present⟩
      · exact ih cid member

end Trail

theorem Trail.mono {car larger : Car} (grows : ∀ block ∈ car.blocks, block ∈ larger.blocks) {record : Ipld}
    {line : List PathDirection} {nodes : List Cid} {leaf : Cid} (trail : Trail car record line nodes leaf) :
    Trail larger record line nodes leaf := by
  induction trail with
  | last found => exact .last found
  | step found present _ ih => exact .step found (get_mono grows present) ih

namespace WitnessService

section Trail

variable {C : Type} [CarFile C] {car : C} {record : Ipld} {line : List PathDirection} {nodes : List Cid}
    {leaf : Cid}

/-- The loop stops at the first node of the trail that a smaller file does not have. -/
theorem pathCids_missing {smaller : C}
    (within : ∀ cid block, CarFile.get smaller cid = some block → CarFile.get car cid = some block)
    (trail : Trail car record line nodes leaf) (gone : ∃ cid ∈ nodes, CarFile.get smaller cid = none) :
    pathCids smaller line (some record) = .error (.invalidWitnessCAR "Missing witness node") := by
  induction trail with
  | last found => simp at gone
  | @step record child direction cid leaf rest nodes found present trail ih =>
      rw [pathCids, required_truthy (truthy_of_index found)]
      simp only [bind, Except.bind, found, required_truthy (show (Ipld.link cid).falsy = false from rfl)]
      cases there : CarFile.get smaller cid with
      | none =>
          obtain ⟨next, directions, rfl⟩ := List.exists_cons_of_ne_nil trail.walk.nonempty
          simp only [there]
          rfl
      | some block =>
          have same : block = child := Option.some.inj ((within cid block there).symm.trans present)
          have later : ∃ cid ∈ nodes, CarFile.get smaller cid = none := by
            obtain ⟨lost, member, absent⟩ := gone
            rcases List.mem_cons.mp member with rfl | member
            · rw [there] at absent
              cases absent
            · exact ⟨lost, member, absent⟩
          simp only [there, same, ih later]

end Trail

/-- The loop copies the nodes of the trail and no other block. -/
theorem copyPath_trail {merkleCAR : Car} {record : Ipld} {line : List PathDirection} {nodes : List Cid}
    {leaf : Cid}
    (trail : Trail merkleCAR record line nodes leaf) (outside : merkleCAR.get leaf = none) (car : Car) :
    ∃ copied, copyPath merkleCAR line (some record) car = .ok copied ∧
      (∀ block, block ∈ copied.blocks ↔ block ∈ car.blocks ∨ Cid.record block ∈ nodes) ∧
      Trail copied record line nodes leaf := by
  induction trail generalizing car with
  | last found =>
      refine ⟨car, ?_, by simp, .last found⟩
      rw [copyPath, access_truthy (truthy_of_index found), found]
      simp only [bind, Except.bind, lookup_link, copyPath, outside]
  | @step record child direction cid leaf rest nodes found present trail ih =>
      have childThere : merkleCAR.get cid = some child := present
      obtain ⟨_, rfl⟩ := Car.get_eq_some.mp childThere
      obtain ⟨copied, done, blocks, again⟩ := ih outside (car.putBlock child)
      have copiedChild : child ∈ copied.blocks := (blocks child).mpr (.inl (Car.mem_putBlock.mpr (.inr rfl)))
      refine ⟨copied, ?_, ?_, .step found (Car.get_eq_some.mpr ⟨copiedChild, rfl⟩) again⟩
      · rw [copyPath, access_truthy (truthy_of_index found), found]
        simp only [bind, Except.bind, lookup_link, childThere, trail.walk.truthy, copyBlock_link childThere]
        exact done
      · intro block
        rw [blocks, Car.mem_putBlock, List.mem_cons, Cid.record.injEq, or_assoc]

/-- The chain of an anchor commit: its proof, its Merkle root and the trail from there to the previous
commit. -/
structure Chain {C : Type} [CarFile C] (car : C) (commit proof root : Ipld) (line : List PathDirection)
    (nodes : List Cid) (prev : Cid) : Prop where
  commitThere : CarFile.get car (.record commit) = some commit
  proofLink : commit.property "proof" = some (.link (.record proof))
  proofThere : CarFile.get car (.record proof) = some proof
  rootLink : proof.property "root" = some (.link (.record root))
  rootThere : CarFile.get car (.record root) = some root
  decoded : decodePath (commit.property "path") = .ok line
  trail : Trail car root line nodes prev

/-- A CAR that holds an anchor commit has its chain. -/
theorem Holds.chain {car : Car} {commitCid : Cid} {commit : Ipld} {prev : Cid}
    (holds : Holds car commitCid commit prev) :
    commitCid = .record commit ∧ ∃ proof root line nodes, Chain car commit proof root line nodes prev := by
  obtain ⟨proofCid, proof, rootCid, root, path, line, proofLink, proofThere, rootLink, rootThere, pathText,
    decoded, walk⟩ := holds.walks
  obtain ⟨nodes, trail⟩ := walk.trail
  obtain ⟨_, rfl⟩ := Car.get_eq_some.mp holds.present
  obtain ⟨_, rfl⟩ := Car.get_eq_some.mp proofThere
  obtain ⟨_, rfl⟩ := Car.get_eq_some.mp rootThere
  have decodes : decodePath (commit.property "path") = .ok line := by
    rw [pathText]
    exact decodePath_text decoded
  exact ⟨rfl, proof, root, line, nodes, holds.present, proofLink, proofThere, rootLink, rootThere,
    decodes, trail⟩

section Chain

variable {C : Type} [CarFile C] {car : C} {commit proof root : Ipld} {line : List PathDirection}
  {nodes : List Cid} {prev : Cid}

/-- The CIDs of a chain come in its order, and the last one is the previous commit. -/
theorem cids_chain (chain : Chain car commit proof root line nodes prev)
    (rooted : (CarFile.roots car).head? = some (.record commit)) :
    cids car = .ok (.record commit, .link (.record proof) :: .link (.record root) ::
      (nodes.map .link ++ [.link prev])) :=
  (cids_yield rooted chain.commitThere (truthy_of_property chain.proofLink)
    ((congrArg _ chain.proofLink).trans chain.proofThere) (truthy_of_property chain.rootLink)
    ((congrArg _ chain.rootLink).trans chain.rootThere) chain.trail.walk.truthy chain.decoded
    (pathCids_trail chain.trail)).trans (by rw [chain.proofLink, chain.rootLink]; rfl)

/-- Each position of the chain has a check that fails when its block is gone. -/
theorem cids_missing {smaller : C} (sameRoots : CarFile.roots smaller = CarFile.roots car)
    (within : ∀ cid block, CarFile.get smaller cid = some block → CarFile.get car cid = some block)
    (chain : Chain car commit proof root line nodes prev)
    (rooted : (CarFile.roots car).head? = some (.record commit)) {lost : Cid}
    (gone : CarFile.get smaller lost = none)
    (needed : lost ∈ .record commit :: .record proof :: .record root :: nodes) :
    ∃ message, cids smaller = .error (.invalidWitnessCAR message) := by
  obtain ⟨roots, rooted⟩ := List.head?_eq_some_iff.mp rooted
  have kept : ∀ {block}, CarFile.get car (.record block) = some block →
      CarFile.get smaller (.record block) = none ∨ CarFile.get smaller (.record block) = some block := by
    intro block there
    cases found : CarFile.get smaller (.record block) with
    | none => exact .inl rfl
    | some other => exact .inr (by rw [← there, within _ other found])
  unfold cids
  simp only [sameRoots, rooted, bind, Except.bind, pure, Except.pure]
  rcases kept chain.commitThere with noCommit | commitKept
  · exact ⟨"No anchor commit found", by simp only [noCommit]; rfl⟩
  simp only [commitKept, required_truthy (truthy_of_property chain.proofLink), chain.proofLink]
  rcases kept chain.proofThere with noProof | proofKept
  · exact ⟨"No proof found", by simp only [noProof]; rfl⟩
  simp only [proofKept, required_truthy (truthy_of_property chain.rootLink), chain.rootLink]
  rcases kept chain.rootThere with noRoot | rootKept
  · exact ⟨"No Merkle root found", by simp only [noRoot]; rfl⟩
  simp only [rootKept, required_truthy chain.trail.walk.truthy, chain.decoded]
  have nodeGone : ∃ cid ∈ nodes, CarFile.get smaller cid = none := by
    simp only [List.mem_cons] at needed
    rcases needed with rfl | rfl | rfl | member
    · rw [commitKept] at gone
      cases gone
    · rw [proofKept] at gone
      cases gone
    · rw [rootKept] at gone
      cases gone
    · exact ⟨lost, member, gone⟩
  exact ⟨"Missing witness node", by rw [pathCids_missing within chain.trail nodeGone]⟩

end Chain

/-- The witness has the blocks of the chain and no other block. -/
theorem build_chain {merkleCAR : Car} {commit proof root : Ipld} {line : List PathDirection}
    {nodes : List Cid} {prev : Cid} (chain : Chain merkleCAR commit proof root line nodes prev)
    (outside : merkleCAR.get prev = none) :
    ∃ witness, build (.record commit) merkleCAR = .ok witness ∧ witness.roots = [.record commit] ∧
      Chain witness commit proof root line nodes prev ∧
      ∀ block, block ∈ witness.blocks ↔
        Cid.record block ∈ Cid.record commit :: Cid.record proof :: Cid.record root :: nodes := by
  have commitThere : merkleCAR.get (.record commit) = some commit := chain.commitThere
  have proofThere : merkleCAR.get (.record proof) = some proof := chain.proofThere
  have rootThere : merkleCAR.get (.record root) = some root := chain.rootThere
  let started := ((Car.empty.putBlock commit).putBlock proof).putBlock root
  obtain ⟨copied, done, blocks, trail⟩ := copyPath_trail chain.trail outside started
  have sameRoots : copied.roots = [] := by
    obtain ⟨again, redone, roots, _⟩ := copyPath_walk chain.trail.walk started
    obtain rfl := Except.ok.inj (done.symm.trans redone)
    rw [roots, Car.roots_putBlock, Car.roots_putBlock, Car.roots_putBlock]
    rfl
  have built :=
    build_copies commitThere chain.proofLink proofThere chain.rootLink rootThere chain.decoded done
  have members : ∀ block, block ∈ copied.blocks ↔
      Cid.record block ∈ Cid.record commit :: Cid.record proof :: Cid.record root :: nodes := by
    intro block
    rw [blocks]
    simp only [started, Car.mem_putBlock, Car.empty, List.not_mem_nil, false_or, List.mem_cons,
      Cid.record.injEq, or_assoc]
  let witness : Car := { copied with roots := copied.roots ++ [.record commit] }
  have sameBlocks : ∀ block ∈ copied.blocks, block ∈ witness.blocks := fun _ member => member
  have found : ∀ block, Cid.record block ∈ Cid.record commit :: Cid.record proof :: Cid.record root :: nodes →
      CarFile.get witness (.record block) = some block :=
    fun block member => Car.get_eq_some.mpr ⟨(members block).mpr member, rfl⟩
  refine ⟨witness, built, by simp [witness, sameRoots], ?_, members⟩
  exact ⟨found commit (by simp), chain.proofLink, found proof (by simp), chain.rootLink, found root (by simp),
    chain.decoded, trail.mono sameBlocks⟩

/-- A built witness has the blocks that its CIDs list before the previous commit, and each of them is
needed. -/
theorem build_minimal {merkleCAR : Car} {anchorCommitCID prev : Cid} {commit : Ipld}
    (holds : Holds merkleCAR anchorCommitCID commit prev) (outside : merkleCAR.get prev = none) :
    ∃ witness rest, build anchorCommitCID merkleCAR = .ok witness ∧
    cids witness = .ok (anchorCommitCID, rest) ∧
      (Ipld.link anchorCommitCID :: rest).getLast? = some (.link prev) ∧
      (∀ value, value ∈ (Ipld.link anchorCommitCID :: rest).dropLast ↔
        ∃ block ∈ witness.blocks, value = .link (.record block)) ∧
      ∀ alike, verify alike witness = .ok anchorCommitCID ∧
        ∀ block ∈ witness.blocks, ∃ message,
          verify alike (witness.without block) = .error (.invalidWitnessCAR message) := by
  obtain ⟨rfl, proof, root, line, nodes, chain⟩ := holds.chain
  obtain ⟨witness, built, roots, copied, members⟩ := build_chain chain outside
  obtain ⟨again, rebuilt, _, verified⟩ := verify_build holds
  obtain rfl := Except.ok.inj (built.symm.trans rebuilt)
  have rooted : (CarFile.roots witness).head? = some (.record commit) := congrArg List.head? roots
  refine ⟨witness, _, built, cids_chain copied rooted, ?_, ?_, fun alike => ⟨verified alike, ?_⟩⟩
  · rw [← List.cons_append, ← List.cons_append, ← List.cons_append, List.getLast?_concat]
  · intro value
    rw [← List.cons_append, ← List.cons_append, ← List.cons_append, List.dropLast_concat]
    constructor
    · intro listed
      obtain ⟨cid, member, rfl⟩ : ∃ cid ∈ Cid.record commit :: .record proof :: .record root :: nodes,
          Ipld.link cid = value := List.mem_map.mp listed
      obtain ⟨block, rfl⟩ : ∃ block, cid = .record block := by
        simp only [List.mem_cons] at member
        rcases member with rfl | rfl | rfl | member
        · exact ⟨commit, rfl⟩
        · exact ⟨proof, rfl⟩
        · exact ⟨root, rfl⟩
        · obtain ⟨block, there⟩ := copied.trail.present cid member
          exact ⟨block, (Car.get_eq_some.mp there).2⟩
      exact ⟨block, (members block).mpr member, rfl⟩
    · rintro ⟨block, member, rfl⟩
      simpa using (members block).mp member
  · intro block member
    have within : ∀ cid other, CarFile.get (witness.without block) cid = some other →
        CarFile.get witness cid = some other :=
      fun _ _ there => get_mono Car.mem_of_without there
    have sameRoots : CarFile.roots (witness.without block) = CarFile.roots witness := rfl
    obtain ⟨message, stopped⟩ := cids_missing sameRoots within copied rooted (Car.get_without witness block)
      ((members block).mp member)
    refine ⟨message, ?_⟩
    unfold verify
    rw [stopped]
    rfl

section DeepWitness

/-- The tree of three leaves has an inner node on the left. -/
def deepNode : Ipld := .list (.ofList [.link (.foreign "first"), .link (.foreign "second")])

def deepRoot : Ipld := .list (.ofList [.link (.record deepNode), .link (.foreign "third")])

def deepProof : Ipld := anchorProof (.record deepRoot) "eip155:1" (.foreign "transaction") true

def deepCommit (leaf : String) (path : List PathDirection) : Ipld :=
  anchorCommit (.foreign "stream") (.foreign leaf) (.record deepProof) (PathLineCodec.text path)

def deepCar : Car :=
  ⟨[], [deepNode, deepRoot, deepProof, deepCommit "second" [.L, .R], deepCommit "third" [.R]]⟩

theorem deepCar_holds : Holds deepCar (.record (deepCommit "second" [.L, .R])) (deepCommit "second" [.L, .R])
    (.foreign "second") := by
  have present : ∀ block ∈ deepCar.blocks, CarFile.get deepCar (.record block) = some block :=
    fun block member => Car.get_eq_some.mpr ⟨member, rfl⟩
  have trail : Walk deepCar deepRoot [.L, .R] (.foreign "second") :=
    .step rfl (present deepNode (by simp [deepCar])) (.last rfl)
  exact ⟨present _ (by simp [deepCar]), rfl, .record deepProof, deepProof, .record deepRoot, deepRoot,
    PathLineCodec.text [.L, .R], [.L, .R], rfl, present _ (by simp [deepCar]), rfl,
    present _ (by simp [deepCar]), rfl,
    PathLineCodec.decode_text (by simp), trail⟩

/-- The witness of the second leaf is cut out of the tree, and it needs each of its blocks. -/
theorem build_minimal_deep : ∃ witness, build (.record (deepCommit "second" [.L, .R])) deepCar = .ok witness ∧
    ∀ alike, ∀ block ∈ witness.blocks, ∃ message,
      verify alike (witness.without block) = .error (.invalidWitnessCAR message) := by
  obtain ⟨witness, _, built, _, _, _, verifies⟩ := build_minimal deepCar_holds rfl
  exact ⟨witness, built, fun alike => (verifies alike).2⟩

end DeepWitness

end WitnessService

end CeramicAnchor
