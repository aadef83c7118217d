import RuleAudit.Registry

/-!
# Engine factories

Where engines come from: the built-in scanner, and factories that extensions offer under a name.
Engines enabled by the settings are built and registered one by one; a factory that is missing or
fails costs only its own engine.
-/

namespace RuleAudit

/-- A way to get an engine. -/
inductive Factory where
  /-- The pattern scanner, bound to the catalog at hand. -/
  | scanner
  /-- Whatever an extension builds. -/
  | extension (build : Except Fault Product)

/-- What a factory builds. -/
def Factory.build : Factory → Except Fault Product
  | .scanner => .ok (.engine (.scanner true))
  | .extension result => result

/-- An extension that offers a factory under a name; loading it may fail or give something that
cannot be called. -/
structure Extension where
  name : String
  loaded : Except Fault (Option Factory)

namespace Extension

/-- Faults of loading that cost only the extension itself. -/
def isSkippable : Fault → Bool
  | .plain .loading _ | .plain .member _ => true
  | _ => false

/-- The factories of extensions by name, after those found so far. -/
def factoriesFrom : Keyed Factory → List Extension →
    List Notice × Except Fault (Keyed Factory)
  | found, [] => ([], .ok found)
  | found, ext :: rest =>
    match ext.loaded with
    | .error f =>
      if isSkippable f then
        let (notices, result) := factoriesFrom found rest
        (.log .factory ("Failed to load engine entry point " ++ ext.name ++ ": " ++ f.message) ::
          notices, result)
      else ([], .error f)
    | .ok none =>
      let (notices, result) := factoriesFrom found rest
      (.log .factory s!"Engine entry point {ext.name} is not callable" :: notices, result)
    | .ok (some factory) => factoriesFrom (found.put ext.name factory) rest

end Extension

/-- Factories by engine identifier. -/
abbrev Factories := Keyed Factory

namespace Factories

/-- The built-in factory, and those of extensions under other names. -/
def standard (extensions : List Extension) : List Notice × Except Fault Factories :=
  let (notices, result) := Extension.factoriesFrom [] extensions
  let add (all : Factories) (entry : String × Factory) : Factories :=
    if Keyed.has all entry.1 then all else Keyed.put all entry.1 entry.2
  (notices, result.map fun found => found.foldl add [(heuristicEngine, .scanner)])

/-- Build the engine of an identifier. -/
def create (factories : Factories) (id : String) : Except Fault Product :=
  match Keyed.get? factories id with
  | some factory => factory.build
  | none => .error (.plain .key (some id))

/-- Build and register the engines of identifiers; gives the identifiers of those registered. -/
def load (factories : Factories) : Registry → List String →
    Registry × List Notice × Except Fault (List String)
  | r, [] => (r, [], .ok [])
  | r, id :: rest =>
    match Keyed.get? factories id with
    | none =>
      let (r, notices, result) := load factories r rest
      (r, .log .factory s!"No factory registered for engine {id}" :: notices, result)
    | some factory =>
      match factory.build with
      | .error f =>
        if f.isOrdinary then
          let (r, notices, result) := load factories r rest
          (r, .log .factory (s!"Failed to load engine {id}: " ++ f.message) :: notices, result)
        else (r, [], .error f)
      | .ok (.other v) =>
        let (r, notices, result) := r.offer (.other v)
        (r, notices, result.map fun _ => [])
      | .ok (.engine e) =>
        let (r, warnings) := r.register e
        let (r, notices, result) := load factories r rest
        (r, warnings ++ notices, result.map (e.id :: ·))

end Factories

end RuleAudit
