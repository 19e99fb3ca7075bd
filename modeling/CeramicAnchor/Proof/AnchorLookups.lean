import CeramicAnchor.Construction.AnchorRepository

/-
This file compares the lookup of anchors for several requests with the lookup for each of them.
-/

namespace CeramicAnchor.AnchorRepository
open Storage

variable {cidAsString : String → Except String Cid} {anchors : AnchorTable cidAsString}
    {requests : List Request}

/-- The results of the single lookups, without those that are null. -/
def singles (anchors : AnchorTable cidAsString) (requests : List Request) : List AnchorWithRequest :=
  requests.filterMap fun request => (findByRequest anchors request).toOption.join

/-- The batch lookup returns what the single lookups return, each element with the request that it
belongs to. -/
def Agrees (anchors : AnchorTable cidAsString) (requests : List Request) : Prop :=
  ∀ result, FindsByRequests anchors requests result →
    ∃ found, result = .ok found ∧ found.Perm (singles anchors requests) ∧
      ∀ element ∈ found, ∃ request ∈ requests, request.id = element.requestId ∧
      element.request = .request request

/-- The anchor of a row, if it has one. -/
def anchorOf (cidAsString : String → Except String Cid) (row : AnchorRow) : Option StoredAnchor :=
  (decode cidAsString row).toOption

def imported (anchor : StoredAnchor) : AnchorWithRequest :=
    { toStoredAnchor := anchor, request := .httpsRequest }

/-- Every row of the table is decoded, and each gets the imported function for its request. -/
theorem mapM_withImport {rows : List AnchorRow} (members : ∀ row ∈ rows, row ∈ anchors.table.rows) :
    rows.mapM (withImport cidAsString) = .ok ((rows.filterMap (anchorOf cidAsString)).map imported) := by
  induction rows with
  | nil => rfl
  | cons row rows ih =>
      obtain ⟨anchor, decoded⟩ := anchors.decodable row (members row List.mem_cons_self)
      have rest := ih fun row member => members row (List.mem_cons_of_mem _ member)
      have head : withImport cidAsString row = .ok (imported anchor) := by
        rw [withImport, decoded]
        rfl
      have kept : anchorOf cidAsString row = some anchor := by
        rw [anchorOf, decoded]
        rfl
      rw [List.mapM_cons, head, rest, List.filterMap_cons_some kept]
      rfl

theorem batch_found {result : Except String (List AnchorWithRequest)}
    (finds : FindsByRequests anchors requests result) :
    ∃ rows : List AnchorRow,
    rows.Perm (anchors.table.rows.filter fun row => row.requestId ∈ requests.map Request.id) ∧
      result = .ok ((rows.filterMap (anchorOf cidAsString)).map imported) := by
  obtain ⟨rows, same, rfl⟩ := finds
  exact ⟨rows, same, mapM_withImport fun row member => List.mem_of_mem_filter (same.subset member)⟩

theorem single_found (request : Request) :
    (findByRequest anchors request).toOption.join =
      (anchors.table.lookup AnchorRow.requestId request.id).bind fun row =>
        (anchorOf cidAsString row).map fun anchor =>
        { toStoredAnchor := anchor, request := .request request } := by
  unfold findByRequest anchorOf
  cases anchors.table.lookup AnchorRow.requestId request.id with
  | none => rfl
  | some row =>
      dsimp only
      rw [Option.bind_some]
      cases decode cidAsString row <;> rfl

/-- The rows of the batch are those that the requests have one by one. -/
theorem rows_of_requests (distinct : (requests.map Request.id).Nodup) :
    (anchors.table.rows.filter fun row => row.requestId ∈ requests.map Request.id).Perm
      (requests.filterMap fun request => anchors.table.lookup AnchorRow.requestId request.id) := by
  have unique : (anchors.table.rows.map AnchorRow.requestId).Nodup :=
    anchors.table.distinct _ List.mem_cons_self
  have ids : ((requests.filterMap fun request => anchors.table.lookup AnchorRow.requestId request.id).map
      AnchorRow.requestId).Sublist (requests.map Request.id) := by
    induction requests with
    | nil => exact .slnil
    | cons request requests ih =>
        have rest := ih (List.nodup_cons.mp distinct).2
        rw [List.filterMap_cons, List.map_cons]
        split
        · exact rest.cons _
        · next row found =>
            rw [List.map_cons, (Table.lookup_mem found).2]
            exact rest.cons_cons _
  refine (List.perm_ext_iff_of_nodup (unique.of_map.filter _) (distinct.sublist ids).of_map).mpr fun row => ?_
  rw [List.mem_filter, decide_eq_true_eq, List.mem_map, List.mem_filterMap]
  constructor
  · rintro ⟨member, request, requested, same⟩
    exact ⟨request, requested, (Table.lookup_eq_some List.mem_cons_self).mpr ⟨member, same.symm⟩⟩
  · rintro ⟨request, requested, found⟩
    obtain ⟨member, same⟩ := Table.lookup_mem found
    exact ⟨member, request, requested, same.symm⟩

/-- Apart from the request, the two lookups return the same anchors. -/
theorem batch_anchors_agree (distinct : (requests.map Request.id).Nodup)
    {result : Except String (List AnchorWithRequest)} (finds : FindsByRequests anchors requests result) :
    ∃ found, result = .ok found ∧
      (found.map AnchorWithRequest.toStoredAnchor).Perm
        ((singles anchors requests).map AnchorWithRequest.toStoredAnchor) := by
  obtain ⟨rows, same, rfl⟩ := batch_found finds
  refine ⟨_, rfl, ?_⟩
  have batch : ((rows.filterMap (anchorOf cidAsString)).map imported).map AnchorWithRequest.toStoredAnchor =
      rows.filterMap (anchorOf cidAsString) := by
    rw [List.map_map]
    exact List.map_id _
  have alone : (singles anchors requests).map AnchorWithRequest.toStoredAnchor =
      (requests.filterMap fun request => anchors.table.lookup AnchorRow.requestId request.id).filterMap
        (anchorOf cidAsString) := by
    rw [singles, List.map_filterMap, List.filterMap_filterMap]
    congr 1
    funext request
    rw [single_found]
    cases anchors.table.lookup AnchorRow.requestId request.id with
    | none => rfl
    | some row =>
        rw [Option.bind_some, Option.bind_some]
        cases anchorOf cidAsString row <;> rfl
  rw [batch, alone]
  exact (same.trans (rows_of_requests distinct)).filterMap _

/-- The two lookups agree just when none of the requests has an anchor. -/
theorem batch_agrees_iff (anchors : AnchorTable cidAsString) (requests : List Request)
    (distinct : (requests.map Request.id).Nodup) :
    Agrees anchors requests ↔ ∀ row ∈ anchors.table.rows, row.requestId ∉ requests.map Request.id := by
  constructor
  · intro agrees row member anchored
    obtain ⟨found, same, _, elements⟩ := agrees _ ⟨_, .refl _, rfl⟩
    obtain ⟨anchor, decoded⟩ := anchors.decodable row member
    have listed : imported anchor ∈ found := by
      rw [mapM_withImport fun row member => List.mem_of_mem_filter member] at same
      rw [← Except.ok.inj same]
      refine List.mem_map_of_mem
        (List.mem_filterMap.mpr ⟨row, List.mem_filter.mpr ⟨member, by simpa using anchored⟩, ?_⟩)
      rw [anchorOf, decoded]
      rfl
    obtain ⟨request, _, _, wrong⟩ := elements _ listed
    cases wrong
  · intro unanchored result finds
    obtain ⟨found, returned, same⟩ := batch_anchors_agree distinct finds
    have none_ : singles anchors requests = [] := by
      refine List.filterMap_eq_nil_iff.mpr fun request requested => ?_
      have missing : anchors.table.lookup AnchorRow.requestId request.id = none :=
        Table.lookup_eq_none.mpr fun row member same =>
          unanchored row member (same ▸ List.mem_map_of_mem requested)
      rw [single_found, missing]
      rfl
    rw [none_] at same ⊢
    obtain rfl := List.map_eq_nil_iff.mp same.eq_nil
    exact ⟨[], returned, .nil, fun element member => by cases member⟩

/-- One request has an anchor. -/
def loneAnchors : AnchorTable fun text => .ok (.foreign text) where
  table := ⟨[⟨"1", "a", "bafyproof", "0/1", "bafyanchor", 0, 0⟩], by simp⟩
  decodable _ _ := ⟨_, rfl⟩

def requestOf (id : String) : Request := ⟨id, .PENDING, "bafy" ++ id, "k2t6", "", false, 0, 0, 0, none⟩

theorem batch_agrees_unanchored : Agrees loneAnchors [requestOf "b"] ↔
    ∀ row ∈ loneAnchors.table.rows, row.requestId ∉ [requestOf "b"].map Request.id :=
  batch_agrees_iff loneAnchors [requestOf "b"] (by decide)

theorem batch_disagrees : ¬ ∀ (cidAsString : String → Except String Cid) (anchors : AnchorTable cidAsString)
    (requests : List Request), (requests.map Request.id).Nodup → Agrees anchors requests := by
  intro claim
  obtain ⟨found, same, _, elements⟩ := claim _ loneAnchors [requestOf "a"] (by decide) _ ⟨_, .refl _, rfl⟩
  have listed : imported ⟨⟨"a", .foreign "bafyproof", "0/1", .foreign "bafyanchor"⟩, "1", 0, 0⟩ ∈ found := by
    rw [← Except.ok.inj same]
    exact List.mem_cons_self
  obtain ⟨request, _, _, wrong⟩ := elements _ listed
  cases wrong

end CeramicAnchor.AnchorRepository
