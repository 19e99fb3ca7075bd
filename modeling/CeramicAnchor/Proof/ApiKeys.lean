import CeramicAnchor.Construction.DidRoute
import CeramicAnchor.Proof.Nonce

/-
This file proves which failures leave a registered DID without an API key.
-/

namespace CeramicAnchor
open Concurrency Storage

namespace DynamoDB

section Endpoint

abbrev RouteEvent := Event RouteOp RouteOp.Reply DynamoError AuthServices

/-- The other endpoints write the tables and the configuration between the operations of a registration. -/
inductive OtherCall : AuthServices → AuthServices → Prop where
  | database {call : AuthCall} {op : DynamoOp} {services : AuthServices} {reply : Except DynamoError op.Reply}
      {tables : AuthTables} (other : ∀ email otp dids skipOTP, call ≠ .registerDIDs email otp dids skipOTP)
      (performs : call.Performs op) (performed : op.perform services.tables reply tables) :
      OtherCall services { services with tables := tables }
  | config (services : AuthServices) (key : String) (value : Json) :
      OtherCall services { services with config := Function.update services.config key (some value) }

def endpoint : Setting RouteOp RouteOp.Reply DynamoError AuthServices where
  perform op := op.perform
  rely := Relation.ReflTransGen OtherCall
  rely_refl _ := .refl
  rely_trans := .trans

/-- The requests are answered one after another, each with its own events. -/
inductive Requests (formats : RouteFormats) (config : RouteConfig) :
    AuthServices → List (List RouteEvent) → AuthServices → Prop where
  | none (services : AuthServices) : Requests formats config services [] services
  | next {first middle last : AuthServices} {traces : List (List RouteEvent)} {trace : List RouteEvent}
      {request : RegisterRequest} {response : RegisterResponse}
      (earlier : Requests formats config first traces middle)
      (answered : Path endpoint (request.program formats config) middle trace (.done response) last) :
      Requests formats config first (traces ++ [trace]) last

/-- The gateway has a key whose value is the DID. -/
def HasKey (services : AuthServices) (did : String) : Prop :=
  ∃ id key, services.apiKeys id = some key ∧ key.value = did

/-- The key of the DID is enabled and belongs to the usage plan. -/
def Usable (config : RouteConfig) (services : AuthServices) (did : String) : Prop :=
  ∃ id key, services.apiKeys id = some key ∧ key.value = did ∧ key.enabled = true ∧
    services.usagePlanKeys ⟨config.API_DEFAULT_USAGE_PLAN_ID, id, "API_KEY"⟩ = true

def AllUsable (config : RouteConfig) (services : AuthServices) : Prop :=
  ∀ did, HasStatus services.tables did .Active → Usable config services did

/-- The event registers the DID, and the endpoint is told so. -/
def Adds (did : String) : RouteEvent → Prop
  | ⟨.database (.putItem .DID item _), _, .ok _, _⟩ => (item.PK, item.SK) = (did, INITIAL_NONCE)
  | _ => False

/-- The event asks the gateway for a key of the DID. -/
def AsksKey (did : String) : RouteEvent → Prop
  | ⟨.createApiKey key, _, _, _⟩ => key.value = did
  | _ => False

/-- A registration that takes effect is answered, and so is each command to the gateway with success,
except that the answer may be lost when the last key has been added to the usage plan. -/
def Delivers (earlier : List RouteEvent) : RouteEvent → Prop
  | ⟨.database (.putItem .DID _ _), before, .error _, after⟩ => after.tables .DID = before.tables .DID
  | ⟨.createApiKey _, _, reply, _⟩ => ∃ id, id ≠ "" ∧ reply = .ok (some id)
  | ⟨.createUsagePlanKey planKey, _, .error _, after⟩ => after.usagePlanKeys planKey = true ∧
      ∀ did, (∃ event ∈ earlier, Adds did event) → ∃ event ∈ earlier, AsksKey did event
  | _ => True

def Delivered (trace : List RouteEvent) : Prop :=
  ∀ earlier event later, trace = earlier ++ event :: later → Delivers earlier event

theorem delivered_of_each {trace : List RouteEvent}
    (each : ∀ event ∈ trace, ∀ earlier, Delivers earlier event) :
    Delivered trace := by
  rintro earlier event later rfl
  exact each event (by simp) earlier

end Endpoint

section Statuses

theorem HasStatus.same {tables next : AuthTables} {did : String} {status : DIDStatus}
    (same : next .DID = tables .DID) (held : HasStatus next did status) : HasStatus tables did status := by
  obtain ⟨item, found, text⟩ := held
  exact ⟨item, by rw [← same, found], text⟩

/-- Only a registration makes a DID active. -/
theorem Effect.activates {tables next : AuthTables} {call : AuthCall} {op : DynamoOp}
    (effect : call.Effect tables next op) {did : String} (active : HasStatus next did .Active)
    (other : ∀ email otp dids skipOTP, call ≠ .registerDIDs email otp dids skipOTP) :
    HasStatus tables did .Active := by
  have reached := active
  obtain ⟨item, found, text⟩ := active
  cases effect with
  | none same => exact reached.same same
  | registration => exact absurd rfl (other _ _ _ _)
  | @nonce _ owner nonce createdAtUnix updatedAtUnix free stored =>
      rw [get_put did stored] at found
      split at found
      · obtain rfl := Option.some.inj found
        rw [nonceItem_status] at text
        cases text
      · exact ⟨item, found, text⟩
  | @revocation _ _ owner value updatedAtUnix _ _ stored =>
      rw [get_update did stored] at found
      split at found
      · obtain rfl := Option.some.inj found
        rw [updated_status] at text
        exact absurd text (by decide)
      · exact ⟨item, found, text⟩

theorem OtherCall.active {services next : AuthServices}
    (others : Relation.ReflTransGen OtherCall services next)
    {did : String} (active : HasStatus next.tables did .Active) : HasStatus services.tables did .Active := by
  induction others with
  | refl => exact active
  | tail _ step ih =>
      cases step with
      | database other performs performed =>
          exact ih (Effect.activates (performs.issues.effect performed) active other)
      | config _ key value => exact ih active

theorem OtherCall.gateway {services next : AuthServices}
    (others : Relation.ReflTransGen OtherCall services next) :
    next.apiKeys = services.apiKeys ∧ next.usagePlanKeys = services.usagePlanKeys := by
  induction others with
  | refl => exact ⟨rfl, rfl⟩
  | tail _ step ih => cases step <;> exact ih

theorem DynamoOp.SparesDIDs.perform {op : DynamoOp} (spares : op.SparesDIDs) {tables next : AuthTables}
    {reply : Except DynamoError op.Reply} (performed : op.perform tables reply next) :
    next .DID = tables .DID := by
  rcases op.perform_cases performed with rfl | ⟨value, resolved⟩
  · rfl
  · exact spares.resolves resolved

end Statuses

section Debts

variable {config : RouteConfig} {reached later : AuthServices × List RouteEvent} {dids pending : List String}

/-- An active DID has a key or is owed one, an owed DID was registered by this request, and a DID that
the gateway was asked for has its key or is pending. -/
structure Owed (config : RouteConfig) (reached : AuthServices × List RouteEvent)
    (dids pending : List String) : Prop where
  covers : ∀ did, HasStatus reached.1.tables did .Active → Usable config reached.1 did ∨ did ∈ dids
  added : ∀ did ∈ dids, ∃ event ∈ reached.2, Adds did event
  asked : ∀ did, (∃ event ∈ reached.2, AsksKey did event) → Usable config reached.1 did ∨ did ∈ pending

/-- These operations neither register a DID nor touch the gateway. -/
def RouteOp.Idle : RouteOp → Prop
  | .database op => op.SparesDIDs
  | .getConfigValue _ => True
  | _ => False

abbrev delivery : Setting RouteOp RouteOp.Reply DynamoError (AuthServices × List RouteEvent) :=
  endpoint.recorded.restrict fun op before reply after => Delivers before.2 ⟨op, before.1, reply, after.1⟩

theorem Usable.mono {services next : AuthServices} {did : String} (usable : Usable config services did)
    (keys : ∀ id key, services.apiKeys id = some key → next.apiKeys id = some key)
    (plan : ∀ planKey, services.usagePlanKeys planKey = true → next.usagePlanKeys planKey = true) :
    Usable config next did := by
  obtain ⟨id, key, stored, value, enabled, attached⟩ := usable
  exact ⟨id, key, keys id key stored, value, enabled, plan _ attached⟩

theorem Usable.same {services next : AuthServices} {did : String} (usable : Usable config services did)
    (keys : next.apiKeys = services.apiKeys) (plan : next.usagePlanKeys = services.usagePlanKeys) :
    Usable config next did :=
  usable.mono (fun id key stored => by rw [keys, stored]) fun planKey attached => by rw [plan, attached]

/-- A created key has a fresh identifier, so no other key is lost. -/
theorem AuthServices.Creates.keeps {services next : AuthServices} {key : ApiKey} {id : String}
    (created : services.Creates key id next) {other : String} {stored : ApiKey}
    (present : services.apiKeys other = some stored) : next.apiKeys other = some stored := by
  obtain ⟨fresh, rfl⟩ := created
  have apart : other ≠ id := by
    rintro rfl
    rw [fresh] at present
    cases present
  exact (Function.update_of_ne apart _ _).trans present

theorem AuthServices.attach_keeps {services : AuthServices} {planKey other : UsagePlanKey}
    (attached : services.usagePlanKeys other = true) :
    (services.attach planKey).usagePlanKeys other = true := by
  by_cases same : other = planKey
  · rw [same]
    exact Function.update_self _ _ _
  · exact (Function.update_of_ne same _ _).trans attached

/-- A step that leaves the gateway as it is owes a key to each DID that it registers. -/
theorem Owed.extend (owed : Owed config reached dids pending) {event : RouteEvent} {next : AuthServices}
    {events : List RouteEvent} {more : List String} (extended : events = reached.2 ++ [event])
    (active : ∀ did, HasStatus next.tables did .Active → HasStatus reached.1.tables did .Active ∨ did ∈ more)
    (adds : ∀ did ∈ more, Adds did event) (keys : next.apiKeys = reached.1.apiKeys)
    (plan : next.usagePlanKeys = reached.1.usagePlanKeys) (quiet : ∀ did, ¬ AsksKey did event) :
    Owed config (next, events) (dids ++ more) pending where
  covers did held := by
    rcases active did held with active | member
    · exact (owed.covers did active).imp (fun usable => usable.same keys plan) (List.mem_append_left _)
    · exact .inr (List.mem_append_right _ member)
  added did member := by
    rcases List.mem_append.mp member with member | member
    · obtain ⟨earlier, inside, registers⟩ := owed.added did member
      exact ⟨earlier, by simp [extended, inside], registers⟩
    · exact ⟨event, by simp [extended], adds did member⟩
  asked did := by
    rintro ⟨earlier, inside, asks⟩
    rw [show events = _ from extended] at inside
    rcases List.mem_append.mp inside with inside | inside
    · exact (owed.asked did ⟨earlier, inside, asks⟩).imp_left fun usable => usable.same keys plan
    · rw [List.mem_singleton.mp inside] at asks
      exact absurd asks (quiet did)

theorem Owed.step (owed : Owed config reached dids pending) {event : RouteEvent} {next : AuthServices}
    {events : List RouteEvent} (extended : events = reached.2 ++ [event])
    (active : ∀ did, HasStatus next.tables did .Active → HasStatus reached.1.tables did .Active)
    (keys : next.apiKeys = reached.1.apiKeys) (plan : next.usagePlanKeys = reached.1.usagePlanKeys)
    (quiet : ∀ did, ¬ AsksKey did event) : Owed config (next, events) dids pending := by
  have grown : Owed config (next, events) (dids ++ []) pending :=
    owed.extend extended (fun did held => .inl (active did held)) (by simp) keys plan quiet
  rwa [List.append_nil] at grown

theorem Owed.others (owed : Owed config reached dids pending) (moved : delivery.rely reached later) :
    Owed config later dids pending := by
  obtain ⟨services, events⟩ := reached
  obtain ⟨next, same⟩ := later
  obtain ⟨others, rfl⟩ : Relation.ReflTransGen OtherCall services next ∧ same = events := moved
  obtain ⟨keys, plan⟩ := OtherCall.gateway others
  exact ⟨fun did held => (owed.covers did (OtherCall.active others held)).imp_left fun usable =>
    usable.same keys plan,
    owed.added, fun did asks => (owed.asked did asks).imp_left fun usable => usable.same keys plan⟩

theorem Owed.idle (op : RouteOp) (idle : op.Idle) {reply : Except DynamoError op.Reply}
    (performed : delivery.perform op reached reply later) (owed : Owed config reached dids pending) :
    Owed config later dids pending := by
  obtain ⟨next, events⟩ := later
  obtain ⟨⟨performed, extended⟩, _⟩ := performed
  change op.perform reached.1 reply next at performed
  cases op with
  | database op =>
      obtain ⟨tables, performed, rfl : next = _⟩ := performed
      exact owed.step extended (fun did held => held.same (DynamoOp.SparesDIDs.perform idle performed))
        rfl rfl fun did asks => asks
  | getConfigValue key =>
      obtain rfl : next = reached.1 := by
        cases reply with
        | ok found => exact performed.2
        | error error => exact performed
      exact owed.step extended (fun did held => held) rfl rfl fun did asks => asks
  | createApiKey key => exact idle.elim
  | createUsagePlanKey planKey => exact idle.elim

theorem sat_idle {A : Type} {program : RouteCode A} (confined : program.Confined RouteOp.Idle)
    (owed : Owed config reached dids pending) :
    Sat delivery (fun _ _ _ _ => True) (fun _ later => Owed config later dids pending)
      (fun _ later => Owed config later dids pending) program reached :=
  sat_keeps (fun later => Owed config later dids pending) confined (fun moved held => held.others moved)
    (fun op idle _ _ _ performed held => ⟨trivial, Owed.idle op idle performed held⟩) owed

theorem sat_spares {A : Type} {program : AuthCode A} (confined : program.Confined DynamoOp.SparesDIDs)
    (owed : Owed config reached dids pending) :
    Sat (delivery.within RouteOp.database) (fun _ _ _ _ => True)
    (fun _ later => Owed config later dids pending)
      (fun _ later => Owed config later dids pending) program reached :=
  sat_keeps (fun later => Owed config later dids pending) confined
    (fun moved held => held.others moved)
    (fun op spares _ _ _ performed held => ⟨trivial, Owed.idle (.database op) spares performed held⟩) owed

end Debts

section Registering

variable {config : RouteConfig} {reached : AuthServices × List RouteEvent} {dids : List String}

/-- What the write of a registration makes active is its own DID. -/
theorem active_put {tables next : AuthTables} {email did owner : String} {createdAtUnix updatedAtUnix : Int}
    (stored : next .DID = (tables .DID).put (registrationItem email owner createdAtUnix updatedAtUnix))
    (active : HasStatus next did .Active) : HasStatus tables did .Active ∨ did = owner := by
  obtain ⟨item, found, text⟩ := active
  rw [get_put did stored] at found
  split at found
  · next same => exact .inr (congrArg Prod.fst same)
  · exact .inl ⟨item, found, text⟩

/-- A registration that goes through is owed a key. -/
theorem putItem_sat (owed : Owed config reached dids []) (email did : String)
    (createdAtUnix updatedAtUnix : Int) : Sat (delivery.within RouteOp.database) (fun _ _ _ _ => True)
    (fun _ later => Owed config later (dids ++ [did]) [])
      (fun _ later => Owed config later dids [])
      (Prog.call (DynamoOp.putItem .DID (registrationItem email did createdAtUnix updatedAtUnix)
        (some (.attributeNotExists "PK")))) reached := by
  apply sat_call (DynamoOp.putItem .DID (registrationItem email did createdAtUnix updatedAtUnix)
    (some (.attributeNotExists "PK")))
  · rintro before moved value ⟨next, events⟩ ⟨⟨performed, extended⟩, _⟩
    obtain ⟨tables, performed, rfl : next = { before.1 with tables := tables }⟩ := performed
    have owed := owed.others moved
    have stored : tables .DID =
        (before.1.tables .DID).put (registrationItem email did createdAtUnix updatedAtUnix) := by
      rw [show tables = _ from performed.2]
      exact Function.update_self _ _ _
    refine ⟨trivial,
      owed.extend extended (fun other held => ?_) (fun other member => ?_) rfl rfl fun other asks => asks⟩
    · exact (active_put stored held).imp_right fun same => by simp [same]
    · rw [List.mem_singleton.mp member]
      exact rfl
  · rintro before moved error ⟨next, events⟩ ⟨⟨performed, extended⟩, unanswered⟩
    obtain ⟨tables, performed, rfl : next = { before.1 with tables := tables }⟩ := performed
    exact ⟨trivial,
      (owed.others moved).step extended (fun other held => held.same unanswered)
      rfl rfl fun other asks => asks⟩

/-- The clock never rejects. -/
theorem clock_sat (owed : Owed config reached dids []) :
    Sat (delivery.within RouteOp.database) (fun _ _ _ _ => True) (fun _ later => Owed config later dids [])
      (fun _ _ => False) now reached := by
  apply sat_call DynamoOp.now
  · rintro before moved value after performed
    exact ⟨trivial, Owed.idle (.database .now) trivial performed (owed.others moved)⟩
  · rintro before moved error after ⟨⟨⟨tables, performed, _⟩, _⟩, _⟩
    cases error with
    | conditionalCheckFailed =>
        rcases performed with ⟨refused, _⟩ | ⟨_, remote, _⟩
        · exact refused.elim
        · exact absurd trivial remote
    | resourceNotFound => exact absurd trivial performed.1
    | rejected message => exact absurd trivial performed.1
    | itemNotFound => exact performed.elim
    | thrown message => exact performed.elim

/-- A registration that gives a result is owed a key, and nothing else is. -/
theorem putRegistration_sat (owed : Owed config reached dids []) (email did : String) :
    Sat (delivery.within RouteOp.database) (fun _ _ _ _ => True)
      (fun result later => Owed config later (dids ++ result.toList.map DIDResult.did) []) (fun _ _ => False)
      (putRegistration email did) reached := by
  apply sat_bind _ (clock_sat owed)
  intro createdAtUnix reached owed
  apply sat_bind _ (clock_sat owed)
  intro updatedAtUnix reached owed
  refine sat_handle (fun _ later => Owed config later dids []) ?_ fun error later owed => ?_
  · exact sat_bind _ (putItem_sat owed email did createdAtUnix updatedAtUnix) fun _ _ owed => owed
  · have nothing : Owed config later (dids ++ []) [] := by rwa [List.append_nil]
    exact nothing

theorem registerAll_sat (email otp : String) (remaining : List String) (owed : Owed config reached dids []) :
    Sat (delivery.within RouteOp.database) (fun _ _ _ _ => True)
      (fun results later => Owed config later (dids ++ results.map DIDResult.did) []) (fun _ _ => False)
      (registerAll email otp remaining) reached := by
  induction remaining generalizing dids reached with
  | nil =>
      have nothing : Owed config reached (dids ++ []) [] := by rwa [List.append_nil]
      exact nothing
  | cons did rest ih =>
      apply sat_bind _ (putRegistration_sat owed email did)
      intro result reached owed
      apply sat_bind _ (ih owed)
      intro results later owed
      have owed : Owed config later (dids ++ (result.toList ++ results).map DIDResult.did) [] := by
        rwa [List.map_append, ← List.append_assoc]
      exact owed

/-- A rejected registration has registered nothing, and otherwise a key is owed to each registered DID. -/
theorem registerDIDs_sat (owed : Owed config reached [] []) (email otp : String) (dids : List String)
    (skipOTP : Bool) : Sat (delivery.within RouteOp.database) (fun _ _ _ _ => True)
      (fun data later => Owed config later (data.map DIDResult.did) [])
      (fun _ later => Owed config later [] [])
      (registerDIDs email otp dids skipOTP) reached := by
  have valid :
      ∀ {reached}, Owed config reached [] [] → Sat (delivery.within RouteOp.database) (fun _ _ _ _ => True)
      (fun data later => Owed config later (data.map DIDResult.did) [])
      (fun _ later => Owed config later [] [])
      (registerValid email otp dids) reached := by
    intro reached owed
    unfold registerValid
    split
    · exact owed
    · exact sat_mono (registerAll_sat email otp dids owed) (fun _ _ _ _ _ => trivial) (fun _ _ owed => owed)
        fun _ _ never => never.elim
  unfold registerDIDs
  split
  · exact valid owed
  · apply sat_bind _ (sat_spares (checkCorrectOTP_confined trivial fun _ => trivial) owed)
    intro correct reached owed
    split
    · exact owed
    · exact valid owed

end Registering

section Gateway

variable {config : RouteConfig} {reached : AuthServices × List RouteEvent} {dids pending : List String}

/-- A step of the gateway leaves what is owed, and the DID that it asks for is pending. -/
theorem Owed.grow (owed : Owed config reached dids pending) {event : RouteEvent} {next : AuthServices}
    {events : List RouteEvent} {more : List String} (extended : events = reached.2 ++ [event])
    (tables : next.tables = reached.1.tables)
    (usable : ∀ did, Usable config reached.1 did → Usable config next did)
    (asks : ∀ did, AsksKey did event → did ∈ more) : Owed config (next, events) dids (pending ++ more) where
  covers did held := (owed.covers did (by rwa [← tables])).imp_left (usable did)
  added did member := by
    obtain ⟨earlier, inside, adds⟩ := owed.added did member
    exact ⟨earlier, by simp [extended, inside], adds⟩
  asked did := by
    rintro ⟨earlier, inside, asking⟩
    rw [show events = _ from extended] at inside
    rcases List.mem_append.mp inside with inside | inside
    · exact (owed.asked did ⟨earlier, inside, asking⟩).imp (usable did) (List.mem_append_left _)
    · rw [List.mem_singleton.mp inside] at asking
      exact .inr (List.mem_append_right _ (asks did asking))

/-- A usable key settles what is owed. -/
theorem Owed.settle {did : String} (owed : Owed config reached (did :: dids) [did])
    (usable : Usable config reached.1 did) : Owed config reached dids [] where
  covers other held := by
    rcases owed.covers other held with settled | member
    · exact .inl settled
    · rcases List.mem_cons.mp member with rfl | member
      · exact .inl usable
      · exact .inr member
  added other member := owed.added other (List.mem_cons_of_mem _ member)
  asked other asks := by
    rcases owed.asked other asks with settled | member
    · exact .inl settled
    · rw [List.mem_singleton.mp member]
      exact .inl usable

theorem Owed.allUsable (owed : Owed config reached [] pending) : AllUsable config reached.1 :=
  fun did held => (owed.covers did held).resolve_right (by simp)

/-- The gateway answers with the identifier of the key that it has stored. -/
theorem askKey_sat {name value : String} (owed : Owed config reached (value :: dids) []) :
    Sat delivery (fun _ _ _ _ => True)
      (fun (given : Option String) later => ∃ id, id ≠ "" ∧ given = some id ∧
        later.1.apiKeys id = some ⟨name, true, value⟩ ∧ Owed config later (value :: dids) [value])
      (fun _ _ => False) (Prog.call (RouteOp.createApiKey ⟨name, true, value⟩)) reached := by
  apply sat_call (RouteOp.createApiKey ⟨name, true, value⟩)
  · rintro before moved given ⟨next, events⟩ ⟨⟨performed, extended⟩, id, named, answered⟩
    obtain rfl : given = some id := Except.ok.inj answered
    obtain ⟨_, created, same⟩ := performed
    obtain rfl := same id rfl
    have stored : next.apiKeys id = some ⟨name, true, value⟩ := by
      rw [show next = _ from created.2]
      exact Function.update_self _ _ _
    have tables : next.tables = before.1.tables := by rw [show next = _ from created.2]
    have plan : next.usagePlanKeys = before.1.usagePlanKeys := by rw [show next = _ from created.2]
    refine ⟨trivial, id, named, rfl, stored,
      (owed.others moved).grow extended tables (fun did usable => ?_) ?_⟩
    · exact usable.mono (fun _ _ present => created.keeps present) fun _ attached => by rw [plan, attached]
    · rintro did rfl
      exact List.mem_singleton_self _
  · rintro before moved error after ⟨_, _, _, answered⟩
    cases answered

/-- The command adds nothing to the gateway but the key to the usage plan. -/
theorem Owed.attached {planKey : UsagePlanKey} (owed : Owed config reached dids pending) {event : RouteEvent}
    {next : AuthServices} {events : List RouteEvent} (extended : events = reached.2 ++ [event])
    (quiet : ∀ did, ¬ AsksKey did event) (moved : next = reached.1 ∨ next = reached.1.attach planKey) :
    Owed config (next, events) dids pending ∧ next.apiKeys = reached.1.apiKeys := by
  have grown : Owed config (next, events) dids (pending ++ []) := by
    refine owed.grow extended ?_ (fun did usable => ?_) fun did asks => absurd asks (quiet did)
    · rcases moved with rfl | rfl <;> rfl
    · rcases moved with rfl | rfl
      · exact usable
      · exact usable.mono (fun _ _ held => held) fun _ attached => AuthServices.attach_keeps attached
  rw [List.append_nil] at grown
  exact ⟨grown, by rcases moved with rfl | rfl <;> rfl⟩

/-- The last answer may be lost: then every key that is owed has been asked for. -/
theorem attachKey_sat {name value id : String} (owed : Owed config reached (value :: dids) [value])
    (stored : reached.1.apiKeys id = some ⟨name, true, value⟩) :
    Sat delivery (fun _ _ _ _ => True) (fun _ later => Owed config later dids [])
      (fun _ later => AllUsable config later.1)
      (Prog.call (RouteOp.createUsagePlanKey ⟨config.API_DEFAULT_USAGE_PLAN_ID, id, "API_KEY"⟩)) reached := by
  have present : ∀ {before : AuthServices × List RouteEvent}, delivery.rely reached before →
      before.1.apiKeys id = some ⟨name, true, value⟩ := by
    intro before moved
    rw [(OtherCall.gateway moved.1).1, stored]
  apply sat_call (RouteOp.createUsagePlanKey ⟨config.API_DEFAULT_USAGE_PLAN_ID, id, "API_KEY"⟩)
  · rintro before moved _ ⟨next, events⟩ ⟨⟨performed, extended⟩, _⟩
    obtain ⟨grown, keys⟩ := (owed.others moved).attached extended (fun did asks => asks) (.inr performed.2)
    have added : next.usagePlanKeys ⟨config.API_DEFAULT_USAGE_PLAN_ID, id, "API_KEY"⟩ = true := by
      rw [show next = _ from performed.2]
      exact Function.update_self _ _ _
    exact ⟨trivial, grown.settle ⟨id, _, by rw [keys, present moved], rfl, rfl, added⟩⟩
  · rintro before moved error ⟨next, events⟩ ⟨⟨performed, extended⟩, added, last⟩
    have asked := (owed.others moved).added
    obtain ⟨grown, keys⟩ := (owed.others moved).attached extended (fun did asks => asks) performed
    have usable : Usable config next value := ⟨id, _, by rw [keys, present moved], rfl, rfl, added⟩
    refine ⟨trivial, fun did held => ?_⟩
    rcases grown.covers did held with settled | member
    · exact settled
    · obtain ⟨event, inside, asks⟩ := last did (asked did member)
      have earlier : event ∈ events := by
        rw [show events = _ from extended]
        exact List.mem_append_left _ inside
      rcases grown.asked did ⟨event, earlier, asks⟩ with settled | same
      · exact settled
      · rw [List.mem_singleton.mp same]
        exact usable

theorem registerAPIKey_sat {name value : String} (owed : Owed config reached (value :: dids) []) :
    Sat delivery (fun _ _ _ _ => True) (fun _ later => Owed config later dids [])
      (fun _ later => AllUsable config later.1) (ApiGateway.registerAPIKey config name value) reached := by
  refine sat_bind _ (sat_mono (askKey_sat owed) (fun _ _ _ _ _ => trivial) (fun _ _ held => held)
    fun _ _ never => never.elim) ?_
  rintro given reached ⟨id, named, rfl, stored, owed⟩
  have found : (some id).filter (fun given => given ≠ "") = some id := by simp [named]
  rw [found]
  exact sat_bind _ (attachKey_sat owed stored) fun _ _ owed => owed

/-- Each key is created and added to the usage plan before the next one. -/
theorem createApiKeys_sat (live : config.TESTING ≠ some "true") (users : List (String × String))
    (owed : Owed config reached (users.map Prod.snd) []) :
    Sat delivery (fun _ _ _ _ => True) (fun _ later => AllUsable config later.1)
      (fun _ later => AllUsable config later.1) (ApiGateway.createApiKeys config users) reached := by
  induction users generalizing reached with
  | nil => exact owed.allUsable
  | cons user users ih =>
      refine sat_bind (fun _ later => Owed config later (users.map Prod.snd) [])
        ?_ fun result reached owed => ?_
      · unfold ApiGateway.createApiKey
        rw [if_neg live]
        exact sat_bind _ (registerAPIKey_sat owed) fun _ _ owed => owed
      · exact sat_bind _ (ih owed) fun _ _ usable => usable

end Gateway

section Answers

variable {formats : RouteFormats} {config : RouteConfig} {reached : AuthServices × List RouteEvent}

theorem createKeys_sat (live : config.TESTING ≠ some "true") (data : List DIDResult)
    (owed : Owed config reached (data.map DIDResult.did) []) :
    Sat delivery (fun _ _ _ _ => True) (fun _ later => AllUsable config later.1) (fun _ _ => False)
      (RegisterRequest.createKeys config data) reached := by
  have named :
      Owed config reached ((data.map fun didResult => (didResult.email, didResult.did)).map Prod.snd) [] := by
    rw [List.map_map]
    exact owed
  apply sat_bind _
    (sat_attempt_settled (fun later => AllUsable config later.1) (createApiKeys_sat live _ named))
  intro created later usable
  cases created <;> exact usable

theorem registerNewDIDs_sat (live : config.TESTING ≠ some "true") (request : RegisterRequest) (skipOTP : Bool)
    (owed : Owed config reached [] []) :
    Sat delivery (fun _ _ _ _ => True) (fun _ later => AllUsable config later.1) (fun _ _ => False)
      (RegisterRequest.registerNewDIDs config request skipOTP) reached := by
  have registering : Sat delivery (fun _ _ _ _ => True)
      (fun data later => Owed config later (data.map DIDResult.did) [])
      (fun _ later => Owed config later [] [])
      (database (registerDIDs request.email request.otp request.dids skipOTP)) reached := by
    apply sat_within
    exact registerDIDs_sat owed request.email request.otp request.dids skipOTP
  apply sat_bind _ (sat_attempt registering)
  intro registered later owed
  cases registered with
  | error error => exact Owed.allUsable owed
  | ok data =>
      dsimp only
      split
      · next empty =>
          subst empty
          exact Owed.allUsable owed
      · exact createKeys_sat live data owed

theorem database_idle {A : Type} {code : AuthCode A} (confined : code.Confined DynamoOp.SparesDIDs) :
    (database code).Confined RouteOp.Idle :=
  Prog.confined_implement confined fun op spares => Prog.confined_call (RouteOp.database op) spares

theorem userIsAdmin_idle (request : RegisterRequest) :
    (RegisterRequest.userIsAdmin formats config request).Confined RouteOp.Idle := by
  unfold RegisterRequest.userIsAdmin
  split
  · trivial
  · unfold RegisterRequest.checkUserIsAdmin
    split
    · split
      · trivial
      · unfold RegisterRequest.checkCredentials
        split
        · trivial
        · apply Prog.confined_bind (database_idle (confined_now trivial))
          intro time
          split <;> trivial
    · trivial

theorem registrationClosed_idle : (RegisterRequest.registrationClosed formats).Confined RouteOp.Idle := by
  refine Prog.confined_bind (Prog.confined_handle ?_ ?_) fun _ => trivial
  · apply Prog.confined_bind (Prog.confined_call _ trivial)
    intro found
    cases found <;> trivial
  · intro error
    cases error <;> trivial

/-- However it is answered, a request whose commands are delivered leaves no active DID without a usable
key. -/
theorem RegisterRequest.program_sat (live : config.TESTING ≠ some "true") (request : RegisterRequest)
    {services : AuthServices} (usable : AllUsable config services) :
    Sat delivery (fun _ _ _ _ => True) (fun _ later => AllUsable config later.1) (fun _ _ => False)
      (request.program formats config) (services, []) := by
  have owed : Owed config (services, []) [] [] :=
    ⟨fun did held => .inl (usable did held), by simp, fun did asks => by simp at asks⟩
  unfold RegisterRequest.program
  split
  · exact usable
  · refine sat_handle (fun _ later => Owed config later [] []) ?_ fun error later owed => owed.allUsable
    apply sat_bind _ (sat_idle (userIsAdmin_idle request) owed)
    intro admin reached owed
    split
    · exact sat_mono (registerNewDIDs_sat live request true owed) (fun _ _ _ _ _ => trivial)
        (fun _ _ held => held) fun _ _ never => never.elim
    · apply sat_bind _ (sat_idle registrationClosed_idle owed)
      intro closed reached owed
      split
      · exact owed.allUsable
      · exact sat_mono (registerNewDIDs_sat live request false owed) (fun _ _ _ _ _ => trivial)
          (fun _ _ held => held) fun _ _ never => never.elim

/-- One answered request whose commands are delivered keeps every active DID usable. -/
theorem AllUsable.answered (live : config.TESTING ≠ some "true")
    {request : RegisterRequest} {first last : AuthServices}
    (usable : AllUsable config first) {trace : List RouteEvent} {response : RegisterResponse}
    (answered : Path endpoint (request.program formats config) first trace (.done response) last)
    (delivered : Delivered trace) : AllUsable config last := by
  have ending := sat_restrict_path answered [] (fun earlier event later split => by
    simpa using delivered earlier event later split) (RegisterRequest.program_sat live request usable)
  exact ending

end Answers

section Sequences

/-- In every sequence of requests whose commands are delivered each active DID has a usable key after
each request. -/
theorem registered_usable (formats : RouteFormats) (config : RouteConfig)
    (live : config.TESTING ≠ some "true")
    {first last : AuthServices} (usable : AllUsable config first) {traces : List (List RouteEvent)}
    (requests : Requests formats config first traces last) (delivered : ∀ trace ∈ traces, Delivered trace) :
    AllUsable config last := by
  induction requests with
  | none => exact usable
  | next earlier answered ih =>
      have before := ih fun trace member => delivered trace (List.mem_append_left _ member)
      exact before.answered live answered (delivered _ (List.mem_append_right _ (List.mem_singleton_self _)))

/-- Alice registers her DID with a code, while registration has never been configured. -/
def aliceRequest : RegisterRequest := ⟨none, "alice@example.com", aliceCode, ["did:key:alice"]⟩

def openFormats : RouteFormats :=
  ⟨fun _ => true, fun _ => .error "Failed to decode credentials", fun text => text, fun value =>
    value = .bool false⟩

def liveConfig : RouteConfig := ⟨none, none, none, "default"⟩

def aliceServices (tables : AuthTables) : AuthServices :=
    ⟨tables, fun _ => none, fun _ => none, fun _ => false⟩

def codeTables : AuthTables := storeOTP (fun _ _ => none) "alice@example.com" aliceCode

def usedTables : AuthTables := useOTP codeTables "alice@example.com" aliceCode

def aliceTables : AuthTables := storeRegistration usedTables "alice@example.com" "did:key:alice"

/-- Her code is used up and her DID is registered. -/
def aliceEvents : List RouteEvent :=
  ⟨.getConfigValue "RegistrationEnabled", aliceServices codeTables, .ok none, aliceServices codeTables⟩ ::
    (otpEvents codeTables "alice@example.com" aliceCode ++
      registrationEvents usedTables "alice@example.com" "did:key:alice").map fun event =>
        ⟨.database event.op, aliceServices event.before, event.reply, aliceServices event.after⟩

/-- The request of Alice is answered as the creation of her key is. -/
theorem alice_path {trace : List RouteEvent} {response : RegisterResponse} {last : AuthServices}
    (creating : Path endpoint (RegisterRequest.createKeys liveConfig
      [⟨"alice@example.com", "did:key:alice", INITIAL_NONCE, .Active⟩]) (aliceServices aliceTables) trace
      (.done response) last) :
    Path endpoint (aliceRequest.program openFormats liveConfig) (aliceServices codeTables)
    (aliceEvents ++ trace)
      (.done response) last := by
  have registering := registerDIDs_path ⟨fun _ => none, fun _ => true⟩ ⟨"mainnet", fun _ => false⟩
    (fun _ => .createEmailVerificationCode "alice@example.com") 0
    (storeOTP_correct (fun _ _ => none) "alice@example.com" aliceCode)
    (show didRegex "did:key:alice" = true by decide) rfl
  have performs :
      ∀ (op : DynamoOp) before (reply : Except DynamoError op.Reply) after, op.perform before reply after →
      endpoint.perform (.database op) (aliceServices before) reply (aliceServices after) :=
    fun op before reply after performed => ⟨after, performed, rfl⟩
  have shared : Path (endpoint.within RouteOp.database)
      (registerDIDs "alice@example.com" aliceCode ["did:key:alice"] false) (aliceServices codeTables) _
      (.done [⟨"alice@example.com", "did:key:alice", INITIAL_NONCE, .Active⟩]) (aliceServices aliceTables) :=
    registering.map aliceServices performs fun first second same => by
    rw [show first = second from same]; exact .refl
  have registered : Path endpoint (RegisterRequest.registerNewDIDs liveConfig aliceRequest false)
      (aliceServices codeTables) _ (.done response) last := Path.bind (Path.attempt shared.within) creating
  have invalid : ¬ ¬ aliceRequest.registerValidation openFormats = true := by decide
  unfold RegisterRequest.program
  rw [if_neg invalid]
  apply Path.handle
  apply Path.reply endpoint (RouteOp.getConfigValue "RegistrationEnabled") (.ok none) ⟨rfl, rfl⟩
  rw [List.map_map] at registered
  exact registered

def aliceKey : ApiKey := ⟨"alice@example.com", true, "did:key:alice"⟩

/-- The gateway rejects the key of Alice, and her DID stays registered. -/
theorem registered_without_key : ¬ ∀ (formats : RouteFormats) (config : RouteConfig) (first : AuthServices)
    (traces : List (List RouteEvent)) (last : AuthServices), config.TESTING ≠ some "true" →
      (∀ did, HasStatus first.tables did .Active → HasKey first did) →
      Requests formats config first traces last →
        ∀ did, HasStatus last.tables did .Active → HasKey last did := by
  intro claim
  have creating : Path endpoint (RegisterRequest.createKeys liveConfig
      [⟨"alice@example.com", "did:key:alice", INITIAL_NONCE, .Active⟩]) (aliceServices aliceTables)
      [⟨.createApiKey aliceKey, aliceServices aliceTables, .error (.rejected "Too Many Requests"),
        aliceServices aliceTables⟩]
      (.done (.error "Could not register DIDs: Too Many Requests")) (aliceServices aliceTables) := by
    apply Path.reply endpoint (RouteOp.createApiKey aliceKey) (.error (.rejected "Too Many Requests"))
      (.inl rfl)
    exact Path.stop _ _
  have requests :
      Requests openFormats liveConfig (aliceServices codeTables) [_] (aliceServices aliceTables) :=
    .next (.none _) (alice_path creating)
  have inactive : ∀ did, HasStatus (aliceServices codeTables).tables did .Active →
      HasKey (aliceServices codeTables) did := by
    rintro did ⟨item, found, _⟩
    cases found
  have active : HasStatus (aliceServices aliceTables).tables "did:key:alice" .Active := ⟨_, rfl, rfl⟩
  obtain ⟨id, key, stored, _⟩ := claim _ _ _ _ _ (by decide) inactive requests "did:key:alice" active
  cases stored

theorem registered_usable_alice :
    ∃ trace last, Requests openFormats liveConfig (aliceServices codeTables) [trace] last ∧
    HasStatus last.tables "did:key:alice" .Active ∧ AllUsable liveConfig last := by
  let keyed : AuthServices :=
    { aliceServices aliceTables with apiKeys := Function.update (fun _ => none) "j7zi2a" (some aliceKey) }
  let last : AuthServices := keyed.attach ⟨"default", "j7zi2a", "API_KEY"⟩
  have creating : Path endpoint (RegisterRequest.createKeys liveConfig
      [⟨"alice@example.com", "did:key:alice", INITIAL_NONCE, .Active⟩]) (aliceServices aliceTables)
      [⟨.createApiKey aliceKey, aliceServices aliceTables, .ok (some "j7zi2a"), keyed⟩,
        ⟨.createUsagePlanKey ⟨"default", "j7zi2a", "API_KEY"⟩, keyed, .ok (), last⟩]
      (.done (.registered [⟨"alice@example.com", "did:key:alice", INITIAL_NONCE, .Active⟩])) last := by
    apply Path.reply endpoint (RouteOp.createApiKey aliceKey) (.ok (some "j7zi2a"))
      ⟨"j7zi2a", ⟨rfl, rfl⟩, fun _ same => (Option.some.inj same).symm⟩
    apply Path.reply endpoint (RouteOp.createUsagePlanKey ⟨"default", "j7zi2a", "API_KEY"⟩) (.ok ())
      ⟨rfl, rfl⟩
    exact Path.stop _ _
  have requests : Requests openFormats liveConfig (aliceServices codeTables) [_] last :=
    .next (.none _) (alice_path creating)
  refine ⟨_, last, requests, ⟨_, rfl, rfl⟩, registered_usable _ _ (by decide) ?_ requests ?_⟩
  · rintro did ⟨item, found, _⟩
    cases found
  · intro trace member
    obtain rfl := List.mem_singleton.mp member
    apply delivered_of_each
    simp [aliceEvents, otpEvents, registrationEvents, Delivers]

end Sequences


end DynamoDB

end CeramicAnchor
