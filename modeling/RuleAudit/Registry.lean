import RuleAudit.Engine

/-!
# The engine registry

Engines by identifier, in the order of registration. An engine that cannot be set up is removed, so
that later look-ups report it as unavailable.
-/

namespace RuleAudit

/-- What is offered for registration: an engine, or some value that is none. -/
inductive Product where
  | engine (e : Engine)
  | other (v : Value)

/-- Registered engines. -/
structure Registry where
  entries : Keyed Engine := []

/-- Ordinary faults can be handled where they arise; a withdrawal passes through. -/
def Fault.isOrdinary : Fault → Bool
  | .plain .withdrawn _ => false
  | _ => true

namespace Registry

/-- The identifiers in order of registration. -/
def ids (r : Registry) : List String :=
  r.entries.keys

/-- Whether there is no engine. -/
def isEmpty (r : Registry) : Bool :=
  r.entries.isEmpty

/-- The engine of an identifier. -/
def get? (r : Registry) (id : String) : Option Engine :=
  r.entries.get? id

/-- The engine of an identifier, which must be registered. -/
def get (r : Registry) (id : String) : Except Fault Engine :=
  match r.get? id with
  | some e => .ok e
  | none => .error (.plain .key (some id))

/-- The registry with a new state of a registered engine. -/
def update (r : Registry) (e : Engine) : Registry :=
  if r.entries.has e.id then { entries := r.entries.put e.id e } else r

/-- Register an engine in place of any with the same identifier. -/
def register (r : Registry) (e : Engine) : Registry × List Notice :=
  let warnings : List Notice :=
    if r.entries.has e.id then [.log .registry s!"Engine {e.id} already registered, replacing"]
    else []
  ({ entries := r.entries.put e.id e }, warnings)

/-- Register what is offered, which must be an engine. -/
def offer (r : Registry) : Product → Registry × List Notice × Except Fault Unit
  | .engine e => ((r.register e).1, (r.register e).2, .ok ())
  | .other v =>
    (r, [], .error (.plain .type (some (v.literal ++ " does not implement the Engine contract"))))

/-- Register engines one after another. -/
def registerAll (r : Registry) : List Engine → Registry × List Notice
  | [] => (r, [])
  | e :: rest =>
    let (r, warnings) := r.register e
    let (r, more) := r.registerAll rest
    (r, warnings ++ more)

/-- Remove an engine. -/
def remove (r : Registry) (id : String) : Registry :=
  { entries := r.entries.erase id }

/-- Whether an engine is registered and supports a rule. -/
def supports (r : Registry) (id ruleId : String) : Bool :=
  match r.get? id with
  | some e => e.supports ruleId
  | none => false

/-! ## Setting up and shutting down -/

/-- Set an engine up; one that fails is removed. -/
def setUp (tree : FileTree) (catalog : Catalog) (r : Registry) (id : String)
    (settings : Keyed Value) : Catalog × Registry × Except Fault Unit :=
  match r.get? id with
  | none => (catalog, r, .error (.setUpReason id "engine not registered"))
  | some e =>
    match e.setUp tree catalog settings with
    | (catalog, e, .ok ()) => (catalog, r.update e, .ok ())
    | (catalog, e, .error f) =>
      if f.isOrdinary then (catalog, r.remove id, .error (.setUp id f))
      else (catalog, r.update e, .error f)

/-- Set engines up in order, collecting the failures. -/
def setUpAll (tree : FileTree) (settings : Keyed (Keyed Value)) :
    Catalog → Registry → List String → Catalog × Registry × Except Fault (List Fault)
  | catalog, r, [] => (catalog, r, .ok [])
  | catalog, r, id :: rest =>
    match r.setUp tree catalog id ((settings.get? id).getD []) with
    | (catalog, r, .ok ()) => setUpAll tree settings catalog r rest
    | (catalog, r, .error f) =>
      if f.isOrdinary then
        match setUpAll tree settings catalog r rest with
        | (catalog, r, .ok failures) => (catalog, r, .ok (f :: failures))
        | failed => failed
      else (catalog, r, .error f)

/-- Shut engines down in order, collecting the failures. -/
def tearDownEach : Registry → List String → Registry × Except Fault (List (String × Fault))
  | r, [] => (r, .ok [])
  | r, id :: rest =>
    match r.get? id with
    | none => tearDownEach r rest
    | some e =>
      match e.tearDown with
      | (e, .ok ()) => tearDownEach (r.update e) rest
      | (e, .error f) =>
        if f.isOrdinary then
          match tearDownEach (r.update e) rest with
          | (r, .ok failures) => (r, .ok ((id, f) :: failures))
          | failed => failed
        else (r.update e, .error f)

/-- Shut every engine down. -/
def tearDownAll (r : Registry) : Registry × Except Fault (List (String × Fault)) :=
  tearDownEach r r.ids

/-- What is shown of every engine. -/
def describe (r : Registry) : Keyed (Keyed Value) :=
  r.entries.map fun entry => (entry.1, entry.2.describe)

end Registry

end RuleAudit
