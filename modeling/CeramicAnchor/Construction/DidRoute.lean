import CeramicAnchor.Concurrency.Refinement
import CeramicAnchor.Construction.Authorizer
import CeramicAnchor.Encoding.Json

/-
This file translates the endpoint that registers DIDs and the key service that gives each of them an API key.
-/

namespace CeramicAnchor
open Concurrency Storage

namespace DynamoDB

structure ApiKey where
  name : String
  enabled : Bool
  value : String
  deriving DecidableEq, Repr

structure UsagePlanKey where
  usagePlanId : String
  keyId : String
  keyType : String
  deriving DecidableEq, Repr

/-- An endpoint awaits the database, the table of the configuration and the gateway. -/
inductive RouteOp where
  | database (op : DynamoOp)
  | getConfigValue (key : String)
  | createApiKey (key : ApiKey)
  | createUsagePlanKey (planKey : UsagePlanKey)

/-- A created key may come back without its identifier. -/
abbrev RouteOp.Reply : RouteOp → Type
  | .database op => op.Reply
  | .getConfigValue _ => Option Json
  | .createApiKey _ => Option String
  | .createUsagePlanKey _ => Unit

abbrev RouteCode (A : Type) := Prog RouteOp RouteOp.Reply DynamoError A

def DynamoError.message : DynamoError → String
  | .conditionalCheckFailed => "The conditional request failed"
  | .resourceNotFound => "Requested resource not found"
  | .rejected message => message
  | .itemNotFound => "Item not found"
  | .thrown message => message

/-- The endpoint calls the database with its own client. -/
def database {A : Type} (code : AuthCode A) : RouteCode A :=
  code.implement fun op => Prog.call (RouteOp.database op)

/-- The timestamp is a number, which is compared with the current time, and the password may be missing. -/
structure AdminCredentials where
  username : String
  password : Option String
  expired : Int → Bool

/-- Validation, decoding and hashing are external, and so is the loose comparison of a value with `false`. -/
structure RouteFormats where
  email : String → Bool
  decodeAdminCredentials : String → Except String AdminCredentials
  sha256HashString : String → String
  equalsFalse : Json → Bool

structure RouteConfig where
  ADMIN_USERNAME : Option String
  ADMIN_PASSWORD : Option String
  TESTING : Option String
  API_DEFAULT_USAGE_PLAN_ID : String

structure RegisterRequest where
  authorization : Option String
  email : String
  otp : String
  dids : List String

/-- The endpoint answers with a message, with the registrations or with an error. -/
inductive RegisterResponse where
  | message (text : String)
  | registered (data : List DIDResult)
  | error (text : String)
  deriving DecidableEq, Repr

/-- This text stands before the credentials of a header. -/
def BASIC : String := "Basic "

def authBasicRegex (authorization : String) : Bool := decide (Includes authorization BASIC)

/-- A missing item counts as an item without a value, and any other rejection as no item. -/
def getConfig (key : String) : RouteCode (Option Json) :=
  tryCatch (do
    let found : Option Json ← Prog.call (RouteOp.getConfigValue key)
    match found with
    | none => throw .itemNotFound
    | some value => pure (some value)) fun
      | .itemNotFound => pure (some .null)
      | _ => pure none

namespace ApiGateway

variable (config : RouteConfig)

def registerAPIKey (name value : String) : RouteCode UsagePlanKey := do
  let id : Option String ← Prog.call (RouteOp.createApiKey ⟨name, true, value⟩)
  match id.filter fun given => given ≠ "" with
  | none => throw (.thrown "Api key was created but its id is missing!")
  | some keyId => do
      Prog.call (RouteOp.createUsagePlanKey ⟨config.API_DEFAULT_USAGE_PLAN_ID, keyId, "API_KEY"⟩)
      pure ⟨config.API_DEFAULT_USAGE_PLAN_ID, keyId, "API_KEY"⟩

/-- A test environment creates no keys. -/
def createApiKey (name value : String) : RouteCode (Option UsagePlanKey) :=
  if config.TESTING = some "true" then pure none
  else do
    let planKey ← registerAPIKey config name value
    pure (some planKey)

/-- The keys are created one by one, and the first rejection ends the loop. -/
def createApiKeys : List (String × String) → RouteCode (List UsagePlanKey)
  | [] => pure []
  | user :: users => do
      let result ← createApiKey config user.1 user.2
      let results ← createApiKeys users
      pure (result.toList ++ results)

end ApiGateway

namespace RegisterRequest

variable (formats : RouteFormats) (config : RouteConfig)

def registerValidation (request : RegisterRequest) : Bool :=
  request.authorization.all authBasicRegex && formats.email request.email && request.otp ≠ "" &&
    request.dids.Nodup && request.dids.all didRegex && request.dids.length ≤ 4

/-- The credentials of the header must be those of the administrator and not expired. -/
def checkCredentials (adminUsername adminPassword authorization : String) : RouteCode Bool :=
  match formats.decodeAdminCredentials ((secondPart authorization " ").getD "") with
  | .error text => throw (.thrown text)
  | .ok credentials => do
      let time ← database now
      if credentials.expired time then pure false
      else pure (formats.sha256HashString adminUsername = credentials.username &&
        some (formats.sha256HashString adminPassword) = credentials.password)

/-- An empty variable of the environment counts as missing. -/
def checkUserIsAdmin (authorization : String) : RouteCode Bool :=
  match config.ADMIN_USERNAME.filter (fun name => name ≠ ""),
      config.ADMIN_PASSWORD.filter (fun word => word ≠ "") with
  | some adminUsername, some adminPassword =>
      if ¬ authBasicRegex authorization then pure false
      else checkCredentials formats adminUsername adminPassword authorization
  | _, _ => pure false

def userIsAdmin (request : RegisterRequest) : RouteCode Bool :=
  match request.authorization.filter fun authorization => authorization ≠ "" with
  | none => pure false
  | some authorization => checkUserIsAdmin formats config authorization

/-- Registration is closed by a value that equals `false` loosely, and a missing value does not close it. -/
def registrationClosed : RouteCode Bool := do
  let registrationEnabled ← getConfig "RegistrationEnabled"
  pure (registrationEnabled.any formats.equalsFalse)

/-- Each registration gets an API key for its DID under the name of its email. -/
def createKeys (data : List DIDResult) : RouteCode RegisterResponse := do
  let created ←
      (ApiGateway.createApiKeys config (data.map fun didResult => (didResult.email, didResult.did))).attempt
  match created with
  | .error err => pure (.error s!"Could not register DIDs: {err.message}")
  | .ok _ => pure (.registered data)

/-- The DIDs are registered before the first key is created, and no failure undoes a registration. -/
def registerNewDIDs (request : RegisterRequest) (skipOTP : Bool) : RouteCode RegisterResponse := do
  let registered ← (database (registerDIDs request.email request.otp request.dids skipOTP)).attempt
  match registered with
  | .error err => pure (.error s!"Could not register DIDs: {err.message}")
  | .ok data => if data = [] then pure (.error "No new DIDs registered") else createKeys config data

def capacityReached : String :=
  "We have reached capacity! We are not accepting new registrations at this time. Please try again later."

/-- The administrator may register while registration is closed and needs no code. -/
def register (request : RegisterRequest) : RouteCode RegisterResponse := do
  let admin ← userIsAdmin formats config request
  if admin then registerNewDIDs config request true
  else do
    let closed ← registrationClosed formats
    if closed then pure (.message capacityReached) else registerNewDIDs config request false

/-- A request must pass its validation, and an unexpected rejection is answered without its text. -/
def program (request : RegisterRequest) : RouteCode RegisterResponse :=
  if ¬ request.registerValidation formats then pure (.error "Validation Failed")
  else tryCatch (request.register formats config) fun _ => pure (.error "Internal Error")

end RegisterRequest

section Services

/-- The endpoint shares the tables, the configuration and the gateway with everything else. -/
structure AuthServices where
  tables : AuthTables
  config : String → Option Json
  apiKeys : String → Option ApiKey
  usagePlanKeys : UsagePlanKey → Bool

/-- The gateway stores a new key under a fresh identifier. -/
def AuthServices.Creates (services : AuthServices) (key : ApiKey) (id : String) (next : AuthServices) :
    Prop :=
  services.apiKeys id = none ∧
  next = { services with apiKeys := Function.update services.apiKeys id (some key) }

def AuthServices.attach (services : AuthServices) (planKey : UsagePlanKey) : AuthServices :=
  { services with usagePlanKeys := Function.update services.usagePlanKeys planKey true }

/-- A rejection of the gateway leaves open whether its command took effect. -/
def RouteOp.perform (op : RouteOp) (services : AuthServices) (reply : Except DynamoError op.Reply)
    (next : AuthServices) : Prop :=
  match op, reply with
  | .database op, reply => ∃ tables, op.perform services.tables reply tables ∧
      next = { services with tables := tables }
  | .getConfigValue key, .ok found => found = services.config key ∧ next = services
  | .getConfigValue _, .error _ => next = services
  | .createApiKey key, .ok given => ∃ id, services.Creates key id next ∧ ∀ named ∈ given, named = id
  | .createApiKey key, .error _ => next = services ∨ ∃ id, services.Creates key id next
  | .createUsagePlanKey planKey, .ok _ => (services.apiKeys planKey.keyId).isSome ∧
      next = services.attach planKey
  | .createUsagePlanKey planKey, .error _ => next = services ∨ next = services.attach planKey

end Services

end DynamoDB

end CeramicAnchor
