import CeramicAnchor.Construction.MerkleCar
import CeramicAnchor.Construction.WitnessService
import CeramicAnchor.Proof.PathLine

/-
This file proves which CAR files verify,
and that a witness CAR built from a complete Merkle CAR is one of them.
-/

namespace CeramicAnchor

theorem Walk.nonempty {C : Type} [CarFile C] {car : C} {record : Ipld} {line : List PathDirection}
    {leaf : Cid} (walk : Walk car record line leaf) : line ≠ [] := by
  cases walk
  · simp
  · simp

/-- A value that has elements is true in a condition. -/
theorem truthy_of_index {record value : Ipld} {index : Nat} (found : record.index index = some value) :
    record.falsy = false := by
  cases record with
  | text text =>
      have nonempty : text ≠ "" := by
        rintro rfl
        simp [Ipld.index] at found
      simpa [Ipld.falsy] using nonempty
  | list items => rfl
  | map fields => rfl
  | bytes value => rfl
  | link cid => rfl
  | _ => simp [Ipld.index] at found

theorem truthy_of_property {record value : Ipld} {name : String}
    (found : record.property name = some value) : record.falsy = false := by
  cases record <;> first | rfl | simp [Ipld.property] at found

theorem Walk.truthy {C : Type} [CarFile C] {car : C} {record : Ipld} {line : List PathDirection} {leaf : Cid}
    (walk : Walk car record line leaf) : record.falsy = false := by
  cases walk with
  | last found => exact truthy_of_index found
  | step found _ _ => exact truthy_of_index found

theorem get_mono {car larger : Car} (grows : ∀ block ∈ car.blocks, block ∈ larger.blocks) {cid : Cid}
    {block : Ipld} (present : car.get cid = some block) : larger.get cid = some block := by
  obtain ⟨member, same⟩ := Car.get_eq_some.mp present
  exact Car.get_eq_some.mpr ⟨grows block member, same⟩

theorem Walk.mono {car larger : Car} (grows : ∀ block ∈ car.blocks, block ∈ larger.blocks)
    {record : Ipld} {line : List PathDirection} {leaf : Cid} (walk : Walk car record line leaf) :
    Walk larger record line leaf := by
  induction walk with
  | last found => exact .last found
  | step found present _ ih => exact .step found (get_mono grows present) ih

/-- The walk with the CIDs of the nodes between its start and its leaf. -/
inductive Trail {C : Type} [CarFile C] (car : C) : Ipld → List PathDirection → List Cid → Cid → Prop where
  | last {record : Ipld} {direction : PathDirection} {leaf : Cid}
      (found : record.index direction.number = some (.link leaf)) : Trail car record [direction] [] leaf
  | step {record child : Ipld} {direction : PathDirection} {cid leaf : Cid} {rest : List PathDirection}
      {nodes : List Cid} (found : record.index direction.number = some (.link cid))
      (present : CarFile.get car cid = some child) (trail : Trail car child rest nodes leaf) :
      Trail car record (direction :: rest) (cid :: nodes) leaf

section Trail

variable {C : Type} [CarFile C] {car : C} {record : Ipld} {line : List PathDirection} {nodes : List Cid}
    {leaf : Cid}

theorem Walk.trail (walk : Walk car record line leaf) : ∃ nodes, Trail car record line nodes leaf := by
  induction walk with
  | last found => exact ⟨[], .last found⟩
  | step found present _ ih =>
      obtain ⟨nodes, trail⟩ := ih
      exact ⟨_, .step found present trail⟩

theorem Trail.walk (trail : Trail car record line nodes leaf) : Walk car record line leaf := by
  induction trail with
  | last found => exact .last found
  | step found present _ ih => exact .step found present ih

end Trail

/-- The values on the path lead from this record to the leaf, and each value before the leaf finds a
record. -/
inductive Descends {C : Type} [CarFile C] (car : C) : Ipld → List PathDirection → Cid → Prop where
  | last {record : Ipld} {direction : PathDirection} {leaf : Cid}
      (found : record.index direction.number = some (.link leaf)) : Descends car record [direction] leaf
  | step {record value child : Ipld} {direction : PathDirection} {leaf : Cid} {rest : List PathDirection}
      (found : record.index direction.number = some value) (truthy : value.falsy = false)
      (present : CarFile.getValue car (some value) = some child) (descends : Descends car child rest leaf) :
      Descends car record (direction :: rest) leaf

section Descends

variable {C D : Type} [CarFile C] [CarFile D] {car : C} {record : Ipld} {line : List PathDirection}
    {leaf : Cid}

theorem Walk.descends (walk : Walk car record line leaf) : Descends car record line leaf := by
  induction walk with
  | last found => exact .last found
  | step found present _ ih => exact .step found rfl present ih

theorem Descends.nonempty (descends : Descends car record line leaf) : line ≠ [] := by
  cases descends
  · simp
  · simp

theorem Descends.truthy (descends : Descends car record line leaf) : record.falsy = false := by
  cases descends with
  | last found => exact truthy_of_index found
  | step found _ _ _ => exact truthy_of_index found

/-- A value finds the same record in both CAR files when both have one. -/
def Agree (car : C) (other : D) : Prop :=
  ∀ value record found, CarFile.getValue car value = some record →
    CarFile.getValue other value = some found → record = found

/-- A path leads to one leaf. -/
theorem Descends.same_leaf {other : D} (agree : Agree car other) (descends : Descends car record line leaf)
    {end_ : Cid} (again : Descends other record line end_) : leaf = end_ := by
  induction descends with
  | last found =>
      cases again with
      | last found' =>
          rw [found] at found'
          simpa using found'
      | step _ _ _ rest => exact absurd rfl rest.nonempty
  | step found truthy present descends ih =>
      cases again with
      | last _ => exact absurd rfl descends.nonempty
      | step found' truthy' present' rest =>
          rw [found] at found'
          obtain rfl := Option.some.inj found'
          obtain rfl := agree _ _ _ present present'
          exact ih rest

end Descends

namespace WitnessService

theorem access_truthy {A : Type} {record : Ipld} (truthy : record.falsy = false) (read : Ipld → A) :
    access (some record) read = .ok (read record) := by
  cases record <;> first | rfl | cases truthy

theorem required_truthy {record : Ipld} (truthy : record.falsy = false) (message : String) :
    required (some record) message = .ok record := by
  simp [required, truthy]

theorem grows_putBlock (car : Car) (added : Ipld) :
    ∀ block ∈ car.blocks, block ∈ (car.putBlock added).blocks :=
  fun _ member => Car.mem_putBlock.mpr (.inl member)

theorem get_putBlock (car : Car) (added : Ipld) : (car.putBlock added).get (.record added) = some added :=
  Car.get_eq_some.mpr ⟨Car.mem_putBlock.mpr (.inr rfl), rfl⟩

@[simp]
theorem lookup_link (car : Car) (cid : Cid) : lookup car (some (.link cid)) = .ok (car.get cid) := rfl

theorem copyBlock_link {source destination : Car} {cid : Cid} {block : Ipld}
    (present : source.get cid = some block) (name : String) :
    copyBlock source destination (some (.link cid)) name = .ok (destination.putBlock block) := by
  simp [copyBlock, bind, Except.bind, present]

/-- The copied blocks are enough to walk the path again. -/
theorem copyPath_walk {merkleCAR : Car} {record : Ipld} {line : List PathDirection} {leaf : Cid}
    (walk : Walk merkleCAR record line leaf) (car : Car) :
    ∃ copied, copyPath merkleCAR line (some record) car = .ok copied ∧ copied.roots = car.roots ∧
      (∀ block ∈ car.blocks, block ∈ copied.blocks) ∧ Walk copied record line leaf := by
  induction walk generalizing car with
  | @last record direction leaf found =>
      rw [copyPath, access_truthy (truthy_of_index found), found]
      simp only [bind, Except.bind, lookup_link, copyPath]
      cases present : merkleCAR.get leaf with
      | none => exact ⟨car, rfl, rfl, fun _ member => member, .last found⟩
      | some block =>
          by_cases falsy : block.falsy = true
          · exact ⟨car, by simp [falsy], rfl, fun _ member => member, .last found⟩
          · refine ⟨car.putBlock block, ?_, Car.roots_putBlock car block, grows_putBlock car block,
              .last found⟩
            simp [falsy, copyBlock_link present]
  | @step record child direction cid leaf rest found present walk ih =>
      have childThere : merkleCAR.get cid = some child := present
      obtain ⟨copied, done, sameRoots, grows, again⟩ := ih (car.putBlock child)
      refine ⟨copied, ?_, sameRoots.trans (Car.roots_putBlock car child),
        fun block member => grows block (grows_putBlock car child block member), ?_⟩
      · rw [copyPath, access_truthy (truthy_of_index found), found]
        simp only [bind, Except.bind, lookup_link, childThere, walk.truthy, copyBlock_link childThere]
        exact done
      · obtain ⟨_, rfl⟩ := Car.get_eq_some.mp childThere
        exact .step found (get_mono grows (get_putBlock car child)) again

section Verify

variable {C : Type} [CarFile C] {car : C}

/-- The values along the path are the nodes of the trail and then the leaf. -/
theorem pathCids_trail {record : Ipld} {line : List PathDirection} {nodes : List Cid} {leaf : Cid}
    (trail : Trail car record line nodes leaf) :
    pathCids car line (some record) = .ok (nodes.map .link ++ [.link leaf]) := by
  induction trail with
  | last found =>
      rw [pathCids, required_truthy (truthy_of_index found)]
      simp only [bind, Except.bind, found]
      rfl
  | @step record child direction cid leaf rest nodes found present trail ih =>
      rw [pathCids, required_truthy (truthy_of_index found)]
      simp only [bind, Except.bind, found, required_truthy (show (Ipld.link cid).falsy = false from rfl),
        present, ih]
      rfl

theorem bind_ok {A B : Type} {first : Except WitnessError A} {next : A → Except WitnessError B} {value : B}
    (done : (first >>= next) = .ok value) : ∃ middle, first = .ok middle ∧ next middle = .ok value := by
  cases first with
  | error error => cases done
  | ok middle => exact ⟨middle, rfl, done⟩

theorem required_ok {value : Option Ipld} {message : String} {record : Ipld}
    (done : required value message = .ok record) : value = some record ∧ record.falsy = false := by
  cases value with
  | none => cases done
  | some found =>
      simp only [required] at done
      split at done
      · cases done
      · next truthy =>
          obtain rfl := Except.ok.inj done
          exact ⟨rfl, by simpa using truthy⟩

theorem decodePath_ok {value : Option Ipld} {line : List PathDirection} (done : decodePath value = .ok line) :
    ∃ text, value = some (.text text) ∧ PathLineCodec.decode (JsString.ofString text) = .ok line := by
  unfold decodePath at done
  split at done
  · rename_i text
    refine ⟨text, rfl, ?_⟩
    split at done
    · rename_i path decoded
      rw [decoded, Except.ok.inj done]
    · cases done
  · cases done

/-- A path element yields a value. -/
theorem pathCids_cons {direction : PathDirection} {line : List PathDirection} {record : Option Ipld}
    {nodes : List Ipld} (yielded : pathCids car (direction :: line) record = .ok nodes) :
    ∃ head tail, nodes = head :: tail := by
  obtain ⟨_, _, yielded⟩ := bind_ok yielded
  obtain ⟨head, _, yielded⟩ := bind_ok yielded
  obtain ⟨tail, _, yielded⟩ := bind_ok yielded
  exact ⟨head, tail, (Except.ok.inj yielded).symm⟩

/-- The loop ends at a link only by following the path from record to record. -/
theorem descends_of_pathCids {line : List PathDirection} {record : Ipld} {nodes : List Ipld} {leaf : Cid}
    (yielded : pathCids car line (some record) = .ok nodes) (last : nodes.getLast? = some (.link leaf)) :
    Descends car record line leaf := by
  induction line generalizing record nodes with
  | nil =>
      obtain rfl := Except.ok.inj yielded
      cases last
  | cons direction rest ih =>
      obtain ⟨_, present, yielded⟩ := bind_ok yielded
      obtain rfl := Option.some.inj (required_ok present).1
      obtain ⟨currentCID, found, yielded⟩ := bind_ok yielded
      obtain ⟨found, truthy⟩ := required_ok found
      obtain ⟨later, followed, done⟩ := bind_ok yielded
      obtain rfl := Except.ok.inj done
      cases rest with
      | nil =>
          obtain rfl := Except.ok.inj followed
          obtain rfl : currentCID = .link leaf := by simpa using last
          exact .last found
      | cons next rest =>
          obtain ⟨child, childThere, _⟩ := bind_ok followed
          have childThere := (required_ok childThere).1
          rw [childThere] at followed
          obtain ⟨head, tail, rfl⟩ := pathCids_cons followed
          rw [List.getLast?_cons_cons] at last
          exact .step found truthy childThere (ih followed last)

/-- The loop yields the values on the path, and the leaf is the last one. -/
theorem pathCids_descends {record : Ipld} {line : List PathDirection} {leaf : Cid}
    (descends : Descends car record line leaf) :
    ∃ nodes, pathCids car line (some record) = .ok (nodes ++ [.link leaf]) := by
  induction descends with
  | last found =>
      refine ⟨[], ?_⟩
      rw [pathCids, required_truthy (truthy_of_index found)]
      simp only [bind, Except.bind, found]
      rfl
  | @step record value child direction leaf rest found truthy present descends ih =>
      obtain ⟨nodes, yielded⟩ := ih
      refine ⟨value :: nodes, ?_⟩
      rw [pathCids, required_truthy (truthy_of_index found)]
      simp only [bind, Except.bind, found, required_truthy truthy, present, yielded]
      rfl

/-- The file has an anchor commit, its proof and its Merkle root, and the path from there leads to the
leaf. -/
structure Leads (car : C) (commitCid : Cid) (commit : Ipld) (leaf : Cid) : Prop where
  present : CarFile.get car commitCid = some commit
  descends : ∃ proof root path line, CarFile.getValue car (commit.property "proof") = some proof ∧
    proof.falsy = false ∧ CarFile.getValue car (proof.property "root") = some root ∧
    commit.property "path" = some (.text path) ∧
    PathLineCodec.decode (JsString.ofString path) = .ok line ∧ Descends car root line leaf

/-- The CAR holds an anchor commit with its proof, its Merkle root and the path to its previous commit. -/
structure Holds (car : C) (commitCid : Cid) (commit : Ipld) (prev : Cid) : Prop where
  present : CarFile.get car commitCid = some commit
  previous : commit.property "prev" = some (.link prev)
  walks : ∃ proofCid proof rootCid root path line, commit.property "proof" = some (.link proofCid) ∧
    CarFile.get car proofCid = some proof ∧ proof.property "root" = some (.link rootCid) ∧
    CarFile.get car rootCid = some root ∧ commit.property "path" = some (.text path) ∧
    PathLineCodec.decode (JsString.ofString path) = .ok line ∧ Walk car root line prev

theorem Holds.leads {commitCid : Cid} {commit : Ipld} {prev : Cid} (holds : Holds car commitCid commit prev) :
    Leads car commitCid commit prev := by
  obtain ⟨proofCid, proof, rootCid, root, path, line, proofLink, proofThere, rootLink, rootThere, pathText,
    decoded, walk⟩ := holds.walks
  refine ⟨holds.present, proof, root, path, line, ?_, truthy_of_property rootLink, ?_, pathText, decoded,
    walk.descends⟩
  · rw [proofLink]
    exact proofThere
  · rw [rootLink]
    exact rootThere

theorem cids_ok {commitCid : Cid} {rest : List Ipld} (listed : cids car = .ok (commitCid, rest)) :
    (CarFile.roots car).head? = some commitCid ∧
    ∃ commit proof root path line before nodes, CarFile.get car commitCid = some commit ∧
      CarFile.getValue car (commit.property "proof") = some proof ∧ proof.falsy = false ∧
      CarFile.getValue car (proof.property "root") = some root ∧
      commit.property "path" = some (.text path) ∧ PathLineCodec.decode (JsString.ofString path) = .ok line ∧
      pathCids car line (some root) = .ok nodes ∧ rest = before ++ nodes := by
  unfold cids at listed
  obtain ⟨first, others, rooted⟩ : ∃ first others, CarFile.roots car = first :: others := by
    cases rooted : CarFile.roots car with
    | nil => simp only [rooted] at listed; cases listed
    | cons first others => exact ⟨first, others, rfl⟩
  simp only [rooted, pure_bind] at listed
  obtain ⟨commit, commitThere, listed⟩ := bind_ok listed
  obtain ⟨proof, proofThere, listed⟩ := bind_ok listed
  obtain ⟨root, rootThere, listed⟩ := bind_ok listed
  obtain ⟨line, decoded, listed⟩ := bind_ok listed
  obtain ⟨nodes, yielded, listed⟩ := bind_ok listed
  obtain ⟨rfl, rfl⟩ := Prod.mk.inj (Except.ok.inj listed)
  obtain ⟨proofThere, truthy⟩ := required_ok proofThere
  obtain ⟨path, pathText, decoded⟩ := decodePath_ok decoded
  refine ⟨?_, commit, proof, root, path, line, _, nodes, (required_ok commitThere).1, proofThere, truthy,
    (required_ok rootThere).1, pathText, decoded, yielded, rfl⟩
  simp [rooted]

theorem access_ok {A : Type} {record : Ipld} {read : Ipld → A} {value : A}
    (done : access (some record) read = .ok value) : read record = value := by
  cases record with
  | null => cases done
  | _ => exact Except.ok.inj done

/-- A file that verifies has the path of its first root, and the path leads to the previous commit. -/
theorem leads_of_verify {alike : Cid → Fields → Bool} {commitCid : Cid}
    (verified : verify alike car = .ok commitCid) :
    (CarFile.roots car).head? = some commitCid ∧ ∃ commit leaf, Leads car commitCid commit leaf ∧
      leaf.equals alike (commit.property "prev") = true := by
  obtain ⟨⟨anchorCommitCID, rest⟩, listed, verified⟩ := bind_ok verified
  obtain ⟨rooted, commit, proof, root, path, line, before, nodes, commitThere, proofThere, truthy, rootThere,
    pathText, decoded, yielded, rfl⟩ := cids_ok listed
  obtain ⟨previous, accessed, verified⟩ := bind_ok verified
  rw [commitThere] at accessed
  obtain rfl := access_ok accessed
  obtain ⟨direction, directions, rfl⟩ := List.exists_cons_of_ne_nil ((PathLineCodec.decode_iff.mp decoded).1)
  obtain ⟨head, tail, rfl⟩ := pathCids_cons yielded
  split at verified
  · rename_i leaf ends
    split at verified
    · rename_i same
      obtain rfl := Except.ok.inj verified
      refine ⟨rooted, commit, leaf, ⟨commitThere, proof, root, path, _, proofThere, truthy, rootThere,
        pathText, decoded, descends_of_pathCids yielded ?_⟩, same⟩
      rw [List.getLastD_eq_getLast?, List.getLast?_append,
        List.getLast?_eq_some_getLast (List.cons_ne_nil head tail)] at ends
      rw [List.getLast?_eq_some_getLast (List.cons_ne_nil head tail)]
      exact congrArg some ends
    · cases verified
  · cases verified

/-- The CIDs of a file come in the order of its checks. -/
theorem cids_yield {commitCid : Cid} {commit proof root : Ipld} {line : List PathDirection}
    {nodes : List Ipld}
    (rooted : (CarFile.roots car).head? = some commitCid)
    (commitThere : CarFile.get car commitCid = some commit) (commitTruthy : commit.falsy = false)
    (proofThere : CarFile.getValue car (commit.property "proof") = some proof)
    (proofTruthy : proof.falsy = false)
    (rootThere : CarFile.getValue car (proof.property "root") = some root) (truthy : root.falsy = false)
    (decoded : decodePath (commit.property "path") = .ok line)
    (yielded : pathCids car line (some root) = .ok nodes) :
    cids car = .ok (commitCid,
      (commit.property "proof").toList ++ (proof.property "root").toList ++ nodes) := by
  obtain ⟨roots, rooted⟩ := List.head?_eq_some_iff.mp rooted
  unfold cids
  simp only [rooted, bind, Except.bind, pure, Except.pure, commitThere, required_truthy commitTruthy,
    proofThere, required_truthy proofTruthy, rootThere, required_truthy truthy, decoded, yielded]

theorem decodePath_text {text : String} {line : List PathDirection}
    (decoded : PathLineCodec.decode (JsString.ofString text) = .ok line) :
    decodePath (some (.text text)) = .ok line := by
  simp only [decodePath, decoded]

/-- A file verifies when the path of its first root leads to the previous commit. -/
theorem verify_leads {alike : Cid → Fields → Bool} {commitCid : Cid} {commit : Ipld} {leaf : Cid}
    (leads : Leads car commitCid commit leaf) (rooted : (CarFile.roots car).head? = some commitCid)
    (same : leaf.equals alike (commit.property "prev") = true) : verify alike car = .ok commitCid := by
  obtain ⟨proof, root, path, line, proofThere, proofTruthy, rootThere, pathText, decoded, descends⟩ :=
    leads.descends
  have commitTruthy := truthy_of_property pathText
  obtain ⟨between, yielded⟩ := pathCids_descends descends
  have listed := cids_yield rooted leads.present commitTruthy proofThere proofTruthy rootThere descends.truthy
    (pathText ▸ decodePath_text decoded) yielded
  have last : ((commit.property "proof").toList ++ (proof.property "root").toList ++
      (between ++ [Ipld.link leaf])).getLastD (.link commitCid) = .link leaf := by
    rw [List.getLastD_eq_getLast?, ← List.append_assoc, List.getLast?_concat]
    rfl
  unfold verify
  simp only [listed, bind, Except.bind, last, leads.present, access_truthy commitTruthy, same]
  rfl

/-- A complete witness CAR verifies. -/
theorem verify_holds {commitCid : Cid} {commit : Ipld} {prev : Cid}
    (holds : Holds car commitCid commit prev) (rooted : (CarFile.roots car).head? = some commitCid)
    (alike : Cid → Fields → Bool) : verify alike car = .ok commitCid :=
  verify_leads holds.leads rooted (by simp [holds.previous, Cid.equals])

end Verify

theorem Holds.mono {car larger : Car} (grows : ∀ block ∈ car.blocks, block ∈ larger.blocks)
    {commitCid : Cid} {commit : Ipld} {prev : Cid} (holds : Holds car commitCid commit prev) :
    Holds larger commitCid commit prev := by
  obtain ⟨proofCid, proof, rootCid, root, path, line, proofLink, proofThere, rootLink, rootThere, pathText,
    decoded, walk⟩ := holds.walks
  exact ⟨get_mono grows holds.present, holds.previous, proofCid, proof, rootCid, root, path, line, proofLink,
    get_mono grows proofThere, rootLink, get_mono grows rootThere, pathText, decoded, walk.mono grows⟩

/-- The witness has copies of the commit, the proof and the Merkle root, and then of the path. -/
theorem build_copies {car copied : Car} {commitCid proofCid rootCid : Cid} {commit proof root : Ipld}
    {line : List PathDirection} (commitThere : car.get commitCid = some commit)
    (proofLink : commit.property "proof" = some (.link proofCid)) (proofThere : car.get proofCid = some proof)
    (rootLink : proof.property "root" = some (.link rootCid)) (rootThere : car.get rootCid = some root)
    (decoded : decodePath (commit.property "path") = .ok line)
    (done : copyPath car line (some root) (((Car.empty.putBlock commit).putBlock proof).putBlock root) =
      .ok copied) :
    build commitCid car = .ok { copied with roots := copied.roots ++ [commitCid] } := by
  unfold build
  simp only [bind, Except.bind, copyBlock_link commitThere, commitThere,
    access_truthy (truthy_of_property proofLink), proofLink, lookup_link, copyBlock_link proofThere,
    proofThere, access_truthy (truthy_of_property rootLink), rootLink, copyBlock_link rootThere,
    rootThere, decoded]
  change (copyPath car line (some root)
      (((Car.empty.putBlock commit).putBlock proof).putBlock root)).bind _ = _
  rw [done]
  rfl

/-- A CAR that holds the anchor commit builds a witness that holds it too and verifies. -/
theorem verify_build {car : Car} {commitCid : Cid} {commit : Ipld} {prev : Cid}
    (holds : Holds car commitCid commit prev) :
    ∃ witness, build commitCid car = .ok witness ∧ Holds witness commitCid commit prev ∧
      ∀ alike, verify alike witness = .ok commitCid := by
  obtain ⟨proofCid, proof, rootCid, root, path, line, proofLink, proofThere, rootLink, rootThere, pathText,
    decoded, walk⟩ := holds.walks
  have commitPresent : car.get commitCid = some commit := holds.present
  have proofPresent : car.get proofCid = some proof := proofThere
  have rootPresent : car.get rootCid = some root := rootThere
  let copiedCommit := Car.empty.putBlock commit
  let copiedProof := copiedCommit.putBlock proof
  let copiedRoot := copiedProof.putBlock root
  obtain ⟨copied, done, sameRoots, grows, again⟩ := copyPath_walk walk copiedRoot
  have built := build_copies commitPresent proofLink proofPresent rootLink rootPresent
    (pathText ▸ decodePath_text decoded) done
  refine ⟨_, built, ?_⟩
  have inRoot : ∀ block ∈ copiedProof.blocks, block ∈ copied.blocks := fun block member =>
    grows block (grows_putBlock copiedProof root block member)
  have inProof : ∀ block ∈ copiedCommit.blocks, block ∈ copied.blocks := fun block member =>
    inRoot block (grows_putBlock copiedCommit proof block member)
  have sameCommit := (Car.get_eq_some.mp holds.present).2
  have sameProof := (Car.get_eq_some.mp proofThere).2
  have sameRoot := (Car.get_eq_some.mp rootThere).2
  have complete : Holds copied commitCid commit prev := by
    refine ⟨?_, holds.previous, proofCid, proof, rootCid, root, path, line, proofLink, ?_, rootLink, ?_,
      pathText, decoded, again⟩
    · rw [sameCommit]
      exact get_mono inProof (get_putBlock .empty commit)
    · rw [sameProof]
      exact get_mono inRoot (get_putBlock copiedCommit proof)
    · rw [sameRoot]
      exact get_mono grows (get_putBlock copiedProof root)
  have unrooted : copied.roots = [] := by
    rw [sameRoots, Car.roots_putBlock, Car.roots_putBlock, Car.roots_putBlock]
    rfl
  have rooted : (copied.roots ++ [commitCid]).head? = some commitCid := by
    rw [unrooted]
    rfl
  have sameBlocks : ∀ block ∈ copied.blocks,
      block ∈ ({ copied with roots := copied.roots ++ [commitCid] } : Car).blocks := fun _ member => member
  exact ⟨complete.mono sameBlocks, verify_holds (complete.mono sameBlocks) rooted⟩

/-- The first root of the file is an anchor commit whose Merkle path ends at its previous commit. -/
def Accepts {C : Type} [CarFile C] (alike : Cid → Fields → Bool) (car : C) (anchorCommitCID : Cid) : Prop :=
  (CarFile.roots car).head? = some anchorCommitCID ∧ ∃ commit leaf, Leads car anchorCommitCID commit leaf ∧
    leaf.equals alike (commit.property "prev") = true

/-- A position of a proof leads to the same commit in every CAR file. -/
theorem Leads.same_leaf {C D : Type} [CarFile C] [CarFile D] {car : C} {other : D} (agree : Agree car other)
    {first second : Cid} {commit found : Ipld} {leaf end_ : Cid} (leads : Leads car first commit leaf)
    (again : Leads other second found end_) (sameProof : commit.property "proof" = found.property "proof")
    (samePath : decodePath (commit.property "path") = decodePath (found.property "path")) : leaf = end_ := by
  obtain ⟨proof, root, path, line, proofThere, _, rootThere, pathText, decoded, descends⟩ := leads.descends
  obtain ⟨proof', root', path', line', proofThere', _, rootThere', pathText', decoded', descends'⟩ :=
    again.descends
  rw [sameProof] at proofThere
  obtain rfl := agree _ _ _ proofThere proofThere'
  obtain rfl := agree _ _ _ rootThere rootThere'
  rw [pathText, pathText', decodePath, decodePath, decoded, decoded'] at samePath
  obtain rfl := Except.ok.inj samePath
  exact descends.same_leaf agree descends'

/-- A file verifies exactly when its anchor commit is proven, and a position of a proof has one commit. -/
theorem verify_sound_complete (alike : Cid → Fields → Bool) :
    (∀ {C : Type} [CarFile C] (car : C) (c : Cid), verify alike car = .ok c ↔ Accepts alike car c) ∧
    (∀ {C : Type} [CarFile C] (car : C),
      (∃ error, verify alike car = .error error) ↔ ∀ c, ¬ Accepts alike car c) ∧
    ∀ {C D : Type} [CarFile C] [CarFile D] (car : C) (other : D), Agree car other → ∀ c d commit found,
      verify alike car = .ok c → verify alike other = .ok d → CarFile.get car c = some commit →
      CarFile.get other d = some found → commit.property "proof" = found.property "proof" →
      decodePath (commit.property "path") = decodePath (found.property "path") →
      ∃ prev : Cid, prev.equals alike (commit.property "prev") = true ∧
        prev.equals alike (found.property "prev") = true := by
  have exact_ : ∀ {C : Type} [CarFile C] (car : C) (c : Cid),
      verify alike car = .ok c ↔ Accepts alike car c := by
    intro C _ car c
    constructor
    · exact leads_of_verify
    · rintro ⟨rooted, commit, leaf, leads, same⟩
      exact verify_leads leads rooted same
  refine ⟨exact_, fun car => ?_,
    fun car other agree c d commit found verified verified' there there' sameProof samePath => ?_⟩
  · constructor
    · rintro ⟨error, thrown⟩ c accepts
      rw [(exact_ car c).mpr accepts] at thrown
      cases thrown
    · intro none
      cases outcome : verify alike car with
      | error error => exact ⟨error, rfl⟩
      | ok c => exact absurd ((exact_ car c).mp outcome) (none c)
  · obtain ⟨_, commit', leaf, leads, same⟩ := (exact_ car c).mp verified
    obtain ⟨_, found', end_, again, same'⟩ := (exact_ other d).mp verified'
    obtain rfl := Option.some.inj (there.symm.trans leads.present)
    obtain rfl := Option.some.inj (there'.symm.trans again.present)
    obtain rfl := leads.same_leaf agree again sameProof samePath
    exact ⟨leaf, same, same'⟩

section Shaped

/-- The tree of three leaves has an inner node on the left, and its middle leaf is the CID of the empty
text. -/
def shapedNode : Ipld := .list (.ofList [.link (.foreign "bafkqaalb"), .link (.foreign "bafkqaaa")])

def shapedRoot : Ipld := .list (.ofList [.link (.record shapedNode), .link (.foreign "bafkqaalc")])

def shapedProof : Ipld := anchorProof (.record shapedRoot) "eip155:1" (.foreign "bafkqaale") true

def linkCommit : Ipld :=
  anchorCommit (.foreign "bafkqaald") (.foreign "bafkqaaa") (.record shapedProof)
    (PathLineCodec.text [.L, .R])

/-- A map with the codec, the version and the multihash of the CID of the empty text. -/
def shapedPrev : Fields :=
  .ofList [("code", .int 85), ("version", .int 1),
    ("multihash", .map (.ofList [("code", .int 0), ("size", .int 0), ("bytes", .bytes [0, 0])]))]

def shapedCommit : Ipld :=
  .map (.ofList [("id", .link (.foreign "bafkqaald")), ("prev", .map shapedPrev),
    ("proof", .link (.record shapedProof)), ("path", .text (PathLineCodec.text [.L, .R]))])

/-- The library compares the fields of the map with those of the CID. -/
def shapedAlike (cid : Cid) (fields : Fields) : Bool := cid = .foreign "bafkqaaa" &&
  fields.get "code" = some (.int 85) && fields.get "version" = some (.int 1) &&
  match fields.get "multihash" with
  | some (.map multihash) => multihash.get "code" = some (.int 0) && multihash.get "size" = some (.int 0) &&
      multihash.get "bytes" = some (.bytes [0, 0])
  | _ => false

def shapedCar (commit : Ipld) : Car := ⟨[.record commit], [commit, shapedProof, shapedRoot, shapedNode]⟩

theorem shapedCar_leads {commit : Ipld}
    (proofLink : commit.property "proof" = some (.link (.record shapedProof)))
    (pathText : commit.property "path" = some (.text (PathLineCodec.text [.L, .R]))) :
    Leads (shapedCar commit) (.record commit) commit (.foreign "bafkqaaa") := by
  have present : ∀ block ∈ (shapedCar commit).blocks,
      CarFile.get (shapedCar commit) (.record block) = some block :=
    fun block member => Car.get_eq_some.mpr ⟨member, rfl⟩
  refine ⟨present _ (by simp [shapedCar]), shapedProof, shapedRoot, _, [.L, .R], ?_, rfl,
    present _ (by simp [shapedCar]), pathText, PathLineCodec.decode_text (by simp),
    .step rfl rfl (present shapedNode (by simp [shapedCar])) (.last rfl)⟩
  rw [proofLink]
  exact present _ (by simp [shapedCar])

theorem Car.agree (car other : Car) : Agree car other := by
  intro value record found first second
  cases value with
  | none => cases first
  | some value =>
      cases value with
      | link cid =>
          obtain ⟨_, rfl⟩ := Car.get_eq_some.mp first
          exact Cid.record.inj (Car.get_eq_some.mp second).2
      | _ => cases first

/-- Two files verify with the same position of the same proof, and their previous commits differ: one is a
link, and the other is a map that is no CID. -/
theorem verify_accepts_shaped : Agree (shapedCar linkCommit) (shapedCar shapedCommit) ∧
    verify shapedAlike (shapedCar linkCommit) = .ok (.record linkCommit) ∧
    verify shapedAlike (shapedCar shapedCommit) = .ok (.record shapedCommit) ∧
    linkCommit.property "proof" = shapedCommit.property "proof" ∧
    linkCommit.property "path" = shapedCommit.property "path" ∧
    linkCommit.property "prev" ≠ shapedCommit.property "prev" ∧
    ∀ prev, shapedCommit.property "prev" ≠ some (.link prev) := by
  refine ⟨Car.agree _ _, verify_leads (shapedCar_leads rfl rfl) rfl (by decide),
    verify_leads (shapedCar_leads rfl rfl) rfl (by decide), rfl, rfl, ?_, ?_⟩
  · rintro ⟨⟩
  · rintro prev ⟨⟩

/-- The previous commits of the two files equal one CID. -/
theorem verify_sound_complete_shaped : ∃ prev : Cid,
    verify shapedAlike (shapedCar linkCommit) = .ok (.record linkCommit) ∧
    verify shapedAlike (shapedCar shapedCommit) = .ok (.record shapedCommit) ∧
    linkCommit.property "prev" = some (.link prev) ∧
    prev.equals shapedAlike (some (.map shapedPrev)) = true := by
  obtain ⟨accepts, _, position⟩ := verify_sound_complete shapedAlike
  have first := (accepts (shapedCar linkCommit) _).mpr
    ⟨rfl, linkCommit, _, shapedCar_leads rfl rfl, by decide⟩
  have second := (accepts (shapedCar shapedCommit) _).mpr
    ⟨rfl, shapedCommit, _, shapedCar_leads rfl rfl, by decide⟩
  obtain ⟨prev, same, alike⟩ := position _ _ (Car.agree _ _) _ _ linkCommit shapedCommit first second
    (Car.get_eq_some.mpr ⟨by simp [shapedCar], rfl⟩) (Car.get_eq_some.mpr ⟨by simp [shapedCar], rfl⟩) rfl rfl
  have link : linkCommit.property "prev" = some (.link (.foreign "bafkqaaa")) := rfl
  rw [link] at same
  obtain rfl : prev = .foreign "bafkqaaa" := of_decide_eq_true same
  exact ⟨_, first, second, link, alike⟩

end Shaped

end WitnessService

end CeramicAnchor
