import RuleAudit.Proofs.AlikeAuditors
import RuleAudit.Proofs.Conservation
import RuleAudit.Proofs.Renewal

/-!
# Runs that repeat

A new auditor with new engines comes, once it is set up, to an auditor that can be renewed
(`Auditor.Fresh.renewable`): each of its engines is what setting up made of a new one. From then on
it either stands by, with twins of those engines (`Auditor.StandsBy`), or sleeps, with engines at
rest (`Auditor.Sleeps`). Runs wake it and leave it standing by, shutting it down puts it to sleep,
and a run comes to the same in whichever of the two it starts. So all runs with the same arguments
agree with the first, with any number of shut-downs in between (`Auditor.run_repeats`).
-/

namespace RuleAudit

/-! ## Keyed lists -/

namespace Keyed.Alike

variable {α : Type} {related related' : α → α → Prop} {m m' : Keyed α}

/-- Every entry of the second list changes into one that fits. -/
theorem map_right (h : Keyed.Alike related m m') {f : String × α → α}
    (hf : ∀ key a a', (key, a) ∈ m → (key, a') ∈ m' → related a a' → related' a (f (key, a'))) :
    Keyed.Alike related' m (m'.map fun entry => (entry.1, f entry)) := by
  induction h with
  | nil => exact .nil
  | @cons entry entry' rest rest' hentry _ ih =>
    obtain ⟨k, a⟩ := entry
    obtain ⟨k', a'⟩ := entry'
    obtain ⟨rfl, hrelated⟩ := hentry
    refine .cons ⟨rfl, hf k a a' List.mem_cons_self List.mem_cons_self hrelated⟩ (ih ?_)
    exact fun key b b' hb hb' => hf key b b' (List.mem_cons_of_mem _ hb) (List.mem_cons_of_mem _ hb')

theorem exists_of_mem_right (h : Keyed.Alike related m m') {key : String} {a' : α}
    (hmem : (key, a') ∈ m') : ∃ a, (key, a) ∈ m ∧ related a a' := by
  induction h with
  | nil => cases hmem
  | @cons entry entry' rest rest' hentry _ ih =>
    obtain ⟨k, a⟩ := entry
    rcases List.mem_cons.mp hmem with rfl | hrest
    · obtain ⟨rfl, hrelated⟩ := hentry
      exact ⟨a, List.mem_cons_self, hrelated⟩
    · obtain ⟨b, hb, hrelated⟩ := ih hrest
      exact ⟨b, List.mem_cons_of_mem _ hb, hrelated⟩

end Keyed.Alike

/-! ## Registries -/

namespace Registry

variable {r r' : Registry}

theorem Distinct.of_alike {related : Engine → Engine → Prop} (h : r.Distinct)
    (halike : Keyed.Alike related r.entries r'.entries)
    (hid : ∀ e e', related e e' → e'.id = e.id) : r'.Distinct where
  nodup := by
    have hkeys : r'.ids = r.ids := halike.keys_eq
    exact hkeys ▸ h.nodup
  keyed := by
    rintro ⟨key, e'⟩ hentry
    obtain ⟨e, he, hrelated⟩ := halike.exists_of_mem_right hentry
    exact (hid e e' hrelated).trans (h.keyed _ he)

end Registry

/-- Factories keep the engines of a registry distinct, and what they add they have built. -/
theorem Factories.load_distinct {factories : Factories} {p : Engine → Prop}
    (hbuilt : ∀ entry ∈ factories, ∀ e, entry.2.build = .ok (.engine e) → p e) {r : Registry}
    (h : r.Distinct) (hold : ∀ entry ∈ r.entries, p entry.2) (ids : List String) :
    (factories.load r ids).1.Distinct ∧ ∀ entry ∈ (factories.load r ids).1.entries, p entry.2 := by
  induction ids generalizing r with
  | nil => exact ⟨h, hold⟩
  | cons id rest ih =>
    unfold Factories.load
    split
    · exact ih h hold
    · rename_i factory hfactory
      split
      · split
        · exact ih h hold
        · exact ⟨h, hold⟩
      · exact ⟨h, hold⟩
      · rename_i e he
        refine ih (h.register e) fun entry hentry => ?_
        rcases Keyed.mem_put hentry with rfl | hmem
        · exact hbuilt _ (Keyed.mem_of_get? hfactory) e he
        · exact hold entry hmem

namespace Auditor

variable {tree : FileTree}

/-! ## New auditors -/

/-- An auditor as it is built, with engines, or factories of engines, as they are built. -/
structure Fresh (a : Auditor) : Prop where
  new : a.initialized = false
  catalog : a.catalog.WellKeyed
  registry : a.registry.Distinct
  engines : ∀ entry ∈ a.registry.entries, entry.2.New
  factories : ∀ factories, a.factoriesInUse.2 = .ok factories →
    ∀ entry ∈ factories, ∀ e, entry.2.build = .ok (.engine e) → e.New

/-- A new engine that comes to an engine when this auditor sets it up. -/
structure Raises (tree : FileTree) (a : Auditor) (new e : Engine) : Prop where
  isNew : new.New
  comesTo : (new.setUp tree a.catalog (a.settingsOf e.id)).2 = (e, .ok ())

theorem Raises.id {a : Auditor} {new e : Engine} (h : a.Raises tree new e) : e.id = new.id := by
  have hid := new.setUp_id tree a.catalog (a.settingsOf e.id)
  rwa [h.comesTo] at hid

/-- An auditor that is set up, whose engines come from new ones, and whose catalog does not change
any more. -/
structure Renewable (tree : FileTree) (a : Auditor) : Prop where
  catalog : a.catalog.WellKeyed
  settled : a.catalog.Settled tree
  tolerated : ∀ f, a.catalog.load tree = .error f → f.isCatalog = true
  registry : a.registry.Distinct
  some : a.registry.isEmpty = false
  raised : ∀ entry ∈ a.registry.entries, ∃ new, a.Raises tree new entry.2
  initialized : a.initialized = true

/-- Loading engines gives new engines. -/
theorem loadEngines_new {a : Auditor} (hregistry : a.registry.Distinct)
    (hengines : ∀ entry ∈ a.registry.entries, entry.2.New)
    (hfactories : ∀ factories, a.factoriesInUse.2 = .ok factories →
      ∀ entry ∈ factories, ∀ e, entry.2.build = .ok (.engine e) → e.New) :
    a.loadEngines.auditor.registry.Distinct ∧
      ∀ entry ∈ a.loadEngines.auditor.registry.entries, entry.2.New := by
  unfold loadEngines
  split
  · exact ⟨hregistry, hengines⟩
  · split
    · exact ⟨hregistry, hengines⟩
    · rename_i factories hfound
      have hloaded := Factories.load_distinct (hfactories factories (by rw [hfound])) hregistry
        hengines a.settings.engines.enabled
      dsimp only
      split
      · exact hloaded
      · exact hloaded

/-- Setting new engines up makes an auditor that can be renewed. -/
theorem setUpEngines_renewable {a : Auditor} (hcatalog : a.catalog.WellKeyed)
    (hsettled : a.catalog.Settled tree)
    (htolerated : ∀ f, a.catalog.load tree = .error f → f.isCatalog = true)
    (hregistry : a.registry.Distinct) (hengines : ∀ entry ∈ a.registry.entries, entry.2.New)
    (h : (a.setUpEngines tree).result = .ok ()) :
    (a.setUpEngines tree).auditor.Renewable tree := by
  obtain ⟨c, r, failures, hall, hsome, hauditor⟩ := exists_of_setUpEngines h
  have heq := @Registry.setUpAll_eq tree a.catalog a.engineSettings _ hregistry hsettled failures
    (congrArg (·.2.2) hall)
  rw [hall] at heq
  obtain ⟨rfl, rfl⟩ : c = a.catalog ∧
      r = ⟨a.registry.entries.filterMap (Registry.survivor tree a.catalog a.engineSettings)⟩ :=
    ⟨congrArg Prod.fst heq, congrArg (·.2.1) heq⟩
  have hdistinct := @Registry.Distinct.survivors tree a.catalog a.engineSettings _ hregistry
  rw [hauditor]
  refine ⟨hcatalog, hsettled, htolerated, hdistinct, hsome, fun entry hentry => ?_, rfl⟩
  -- what remains under an identifier is the engine that stood there, set up
  obtain ⟨old, hold, hattempt⟩ := Registry.exists_of_mem_survivors hentry
  unfold Registry.attempt at hattempt
  rw [get?_engineSettings (List.mem_map_of_mem hold), ← hdistinct.keyed entry hentry] at hattempt
  exact ⟨old, hengines _ hold, hattempt⟩

/-- A new auditor that can be set up becomes one that can be renewed. -/
theorem Fresh.renewable {a : Auditor} (h : a.Fresh) (hready : (a.setUp tree).result = .ok ()) :
    (a.setUp tree).auditor.Renewable tree := by
  obtain ⟨hload, built, -, hbuilt, hengines, hauditor⟩ := exists_stages_of_setUp h.new hready
  obtain ⟨hsettled, htolerated⟩ := loadCatalog_settled hload
  obtain ⟨c, hc⟩ := exists_loadCatalog tree { a with state := .initializing }
  have hcatalog : ({ a with state := .initializing }.loadCatalog tree).auditor.catalog.WellKeyed :=
    loadCatalog_catalog (p := Catalog.WellKeyed) (fun _ _ hkeyed hload => hkeyed.load hload)
      h.catalog
  have hloaded := loadEngines_catalog ({ a with state := .initializing }.loadCatalog tree).auditor
  obtain ⟨hdistinct, hnew⟩ := loadEngines_new
    (a := ({ a with state := .initializing }.loadCatalog tree).auditor)
    (by rw [hc]; exact h.registry) (by rw [hc]; exact h.engines) (by rw [hc]; exact h.factories)
  rw [hbuilt] at hloaded hdistinct hnew
  rw [hauditor]
  exact setUpEngines_renewable (hloaded ▸ hcatalog) (hloaded ▸ hsettled) (hloaded ▸ htolerated)
    hdistinct hnew hengines

/-! ## Standing by and sleeping -/

/-- An auditor that is set up, with twins of another one's engines. -/
structure StandsBy (rules : List Rule) (ready a : Auditor) : Prop where
  settings : a.settings = ready.settings
  catalog : a.catalog = ready.catalog
  initialized : a.initialized = true
  registry : ready.registry.Twin rules a.registry

/-- An auditor that is shut down, with engines at rest that come to another one's engines. -/
structure Sleeps (tree : FileTree) (ready a : Auditor) : Prop where
  settings : a.settings = ready.settings
  catalog : a.catalog = ready.catalog
  initialized : a.initialized = false
  registry : Keyed.Alike
    (fun e e' => ∃ new, ready.Raises tree new e ∧ new.Rests (ready.settingsOf e.id) e')
    ready.registry.entries a.registry.entries

/-- An auditor stands by for itself once it is set up. -/
theorem Renewable.standsBy {ready : Auditor} (h : ready.Renewable tree) (rules : List Rule) :
    ready.StandsBy rules ready := by
  refine ⟨rfl, rfl, h.initialized, List.forall₂_same.mpr fun entry hentry => ⟨rfl, ?_⟩⟩
  obtain ⟨new, hnew, hcomes⟩ := h.raised entry hentry
  obtain ⟨-, htwin⟩ := (hnew.rests (ready.settingsOf entry.2.id)).setUp
    (congrArg Prod.snd hcomes) rules
  rwa [congrArg Prod.fst hcomes] at htwin

/-- Setting up wakes an auditor that sleeps. -/
theorem Sleeps.setUp {ready a : Auditor} (hready : ready.Renewable tree) (h : ready.Sleeps tree a)
    (rules : List Rule) :
    (a.setUp tree).result = .ok () ∧ ready.StandsBy rules (a.setUp tree).auditor := by
  have hsettled : a.catalog.Settled tree := h.catalog ▸ hready.settled
  have hdistinct : a.registry.Distinct := hready.registry.of_alike h.registry
    fun e e' ⟨new, hraises, hrests⟩ => hrests.id.trans hraises.id.symm
  -- every engine can be set up again
  have hattempt : ∀ key e e', (key, e) ∈ ready.registry.entries →
      (key, e') ∈ a.registry.entries →
      (∃ new, ready.Raises tree new e ∧ new.Rests (ready.settingsOf e.id) e') →
      (Registry.attempt tree a.catalog a.engineSettings (key, e')).2 = .ok () ∧
        e.Twin rules (Registry.attempt tree a.catalog a.engineSettings (key, e')).1 := by
    rintro key e e' hmem hmem' ⟨new, hraises, hrests⟩
    obtain rfl : e.id = key := hready.registry.keyed _ hmem
    have hsettings : (a.engineSettings.get? e.id).getD [] = ready.settingsOf e.id := by
      rw [get?_engineSettings (List.mem_map_of_mem hmem'), settingsOf, h.settings]
      rfl
    have hagain := hrests.setUp (congrArg Prod.snd hraises.comesTo) rules
    rw [congrArg Prod.fst hraises.comesTo] at hagain
    unfold Registry.attempt
    rw [hsettings, h.catalog]
    exact hagain
  obtain ⟨hload, hloaded⟩ := @loadCatalog_of_settled tree { a with state := .initializing }
    hsettled (h.catalog ▸ hready.tolerated)
  have hbuild : ({ a with state := .initializing } : Auditor).loadEngines =
      { auditor := { a with state := .initializing }, result := .ok () } := by
    have hsome : a.registry.isEmpty = false :=
      (Keyed.Alike.isEmpty_eq h.registry).trans hready.some
    unfold loadEngines
    dsimp only
    rw [hsome]
    rfl
  obtain ⟨hresult, hauditor⟩ := setUp_of_stages h.initialized hload hloaded
    (congrArg AuditStep.result hbuild) (congrArg AuditStep.auditor hbuild)
  have hall := @Registry.setUpAll_eq_ok tree a.catalog a.engineSettings a.registry hdistinct hsettled
    fun entry hentry => by
      obtain ⟨e, he, hrelated⟩ := h.registry.exists_of_mem_right hentry
      exact (hattempt entry.1 e entry.2 he hentry hrelated).1
  have htwin : ready.registry.Twin rules { entries := a.registry.entries.map fun entry =>
      (entry.1, (Registry.attempt tree a.catalog a.engineSettings entry).1) } :=
    h.registry.map_right fun key e e' hmem hmem' hrelated =>
      (hattempt key e e' hmem hmem' hrelated).2
  obtain ⟨hdone, hbecomes⟩ := setUpEngines_of_setUpAll (a := { a with state := .initializing }) hall
    ((Keyed.Alike.isEmpty_eq htwin).trans hready.some)
  rw [hresult, hauditor, hdone, hbecomes]
  exact ⟨rfl, h.settings, h.catalog, rfl, htwin⟩

/-- Shutting down puts an auditor to sleep that stands by. -/
theorem StandsBy.cleanup {ready a : Auditor} {rules : List Rule} (hready : ready.Renewable tree)
    (h : ready.StandsBy rules a) : ready.Sleeps tree a.cleanup.auditor := by
  have hdistinct : a.registry.Distinct :=
    hready.registry.of_alike h.registry fun _ _ htwin => htwin.id
  have htearDown : ∀ key e e', (key, e) ∈ ready.registry.entries → e.Twin rules e' →
      (∃ new, ready.Raises tree new e ∧ new.Rests (ready.settingsOf e.id) e'.tearDown.1) ∧
        ∀ f, e'.tearDown.2 = .error f → f.isOrdinary = true := by
    intro key e e' hmem htwin
    obtain ⟨new, hraises⟩ := hready.raised _ hmem
    obtain ⟨hrests, hordinary⟩ := hraises.isNew.tearDown hraises.comesTo htwin
    exact ⟨⟨new, hraises, hrests⟩, hordinary⟩
  obtain ⟨failures, hall⟩ := Registry.tearDownAll_eq hdistinct fun entry hentry => by
    obtain ⟨e, he, htwin⟩ := h.registry.exists_of_mem_right hentry
    exact (htearDown entry.1 e entry.2 he htwin).2
  unfold Auditor.cleanup
  rw [hall]
  exact ⟨h.settings, h.catalog, rfl, h.registry.map_right fun key e e' hmem _ htwin =>
    (htearDown key e e' hmem htwin).1⟩

/-- An auditor that sleeps goes on sleeping when it is shut down once more. -/
theorem Sleeps.cleanup {ready a : Auditor} (hready : ready.Renewable tree)
    (h : ready.Sleeps tree a) : ready.Sleeps tree a.cleanup.auditor := by
  have hdistinct : a.registry.Distinct := hready.registry.of_alike h.registry
    fun e e' ⟨new, hraises, hrests⟩ => hrests.id.trans hraises.id.symm
  obtain ⟨failures, hall⟩ := Registry.tearDownAll_eq hdistinct fun entry hentry => by
    obtain ⟨e, he, new, -, hrests⟩ := h.registry.exists_of_mem_right hentry
    exact hrests.tearDown.2
  unfold Auditor.cleanup
  rw [hall]
  exact ⟨h.settings, h.catalog, rfl, h.registry.map_right fun key e e' _ _ ⟨new, hraises, hrests⟩ =>
    ⟨new, hraises, hrests.tearDown.1⟩⟩

/-! ## Runs -/

section Runs

variable {files : List FilePath} {inputs : List RuleInput} {engine : Option String}

/-- The rules of a run that are known and not disabled. -/
def rulesOf (a : Auditor) (inputs : List RuleInput) (engine : Option String) : List Rule :=
  (resolveRules (a.settings.requesting engine) a.catalog inputs).rules

/-- A run of an auditor that stands by for its rules, and perhaps others, comes to the same and
leaves it standing by. -/
theorem StandsBy.runReady_of_coherent {ready a : Auditor} (hready : ready.Renewable tree)
    (files : List FilePath) {rules : List Rule} (hcoherent : Scan.Coherent rules)
    (hmem : ∀ rule ∈ ready.rulesOf inputs engine, rule ∈ rules) (h : ready.StandsBy rules a) :
    (a.runReady tree files inputs engine).result =
        (ready.runReady tree files inputs engine).result ∧
      ready.StandsBy rules (a.runReady tree files inputs engine).auditor := by
  unfold Auditor.runReady
  dsimp only
  rw [h.settings, h.catalog, h.registry.route_eq]
  cases prepareWorkload tree (ready.settings.requesting engine).performance files
    (resolveRules (ready.settings.requesting engine) ready.catalog inputs).rules.length with
  | error f => exact ⟨rfl, rfl, rfl, h.initialized, h.registry⟩
  | ok work =>
    dsimp only
    generalize hrouted : Routing.route ready.registry (ready.settings.requesting engine)
      (resolveRules (ready.settings.requesting engine) ready.catalog inputs).rules = routed
    obtain ⟨told, f | plan⟩ := routed
    · exact ⟨rfl, rfl, rfl, h.initialized, h.registry⟩
    · unfold runPlan
      dsimp only
      generalize ({ tree := tree, limits := _, engineSettings := _, output := _, files := _ } :
        RunSetup) = setup
      cases hbatches : batchesOf setup plan.groups with
      | error f =>
        rw [execute_of_error _ hbatches, execute_of_error _ hbatches]
        exact ⟨rfl, rfl, rfl, h.initialized, h.registry⟩
      | ok batches =>
        have hrules : ∀ b ∈ batches, ∀ rule ∈ b.rules, rule ∈ rules :=
          fun b hb rule hrule => hmem rule ((subperm_of_mem_batchesOf (congrArg Prod.snd hrouted)
            hbatches hb).subset hrule)
        obtain ⟨course, course', hcourse, hcourse', htwin, htwin', houtcomes⟩ :=
          h.registry.execute hcoherent hready.registry.wellKeyed hbatches hrules
        rw [hcourse, hcourse']
        refine ⟨?_, rfl, rfl, h.initialized, htwin'⟩
        dsimp only
        unfold metadata
        rw [houtcomes, htwin.ids_eq, htwin'.ids_eq]

/-- The rules of one run are coherent. -/
theorem Renewable.coherent {ready : Auditor} (hready : ready.Renewable tree)
    (inputs : List RuleInput) (engine : Option String) :
    Scan.Coherent (ready.rulesOf inputs engine) :=
  Scan.coherent_of_nodup (nodup_resolveRules hready.catalog inputs)

theorem StandsBy.runReady {ready a : Auditor} (hready : ready.Renewable tree)
    (files : List FilePath) (h : ready.StandsBy (ready.rulesOf inputs engine) a) :
    (a.runReady tree files inputs engine).result =
        (ready.runReady tree files inputs engine).result ∧
      ready.StandsBy (ready.rulesOf inputs engine)
        (a.runReady tree files inputs engine).auditor :=
  h.runReady_of_coherent hready files (hready.coherent inputs engine) fun _ hrule => hrule

/-- An auditor that stands by or sleeps. -/
def Remains (tree : FileTree) (rules : List Rule) (ready a : Auditor) : Prop :=
  ready.StandsBy rules a ∨ ready.Sleeps tree a

/-- Whether an auditor stands by or sleeps, it stands by once it is set up. -/
theorem Remains.setUp {ready a : Auditor} {rules : List Rule} (hready : ready.Renewable tree)
    (h : ready.Remains tree rules a) :
    (a.setUp tree).result = .ok () ∧ ready.StandsBy rules (a.setUp tree).auditor := by
  rcases h with hstands | hsleeps
  · rw [Auditor.setUp, if_pos hstands.initialized]
    exact ⟨rfl, hstands⟩
  · exact hsleeps.setUp hready rules

/-- Whether an auditor stands by or sleeps, a run comes to the same and leaves it standing by. -/
theorem Remains.run_of_coherent {ready a : Auditor} (hready : ready.Renewable tree)
    (files : List FilePath) {rules : List Rule} (hcoherent : Scan.Coherent rules)
    (hmem : ∀ rule ∈ ready.rulesOf inputs engine, rule ∈ rules) (h : ready.Remains tree rules a) :
    (a.run tree files inputs engine).result = (ready.runReady tree files inputs engine).result ∧
      ready.Remains tree rules (a.run tree files inputs engine).auditor := by
  obtain ⟨hsetUp, hstands⟩ := h.setUp hready
  obtain ⟨hresult, hauditor⟩ := AuditStep.andThen_of_eq_ok hsetUp
    fun a _ => a.runReady tree files inputs engine
  obtain ⟨hsame, hafter⟩ := hstands.runReady_of_coherent hready files hcoherent hmem
  exact ⟨hresult.trans hsame, .inl (hauditor ▸ hafter)⟩

theorem Remains.run {ready a : Auditor} (hready : ready.Renewable tree)
    (h : ready.Remains tree (ready.rulesOf inputs engine) a) :
    (a.run tree files inputs engine).result = (ready.runReady tree files inputs engine).result ∧
      ready.Remains tree (ready.rulesOf inputs engine) (a.run tree files inputs engine).auditor :=
  h.run_of_coherent hready files (hready.coherent inputs engine) fun _ hrule => hrule

theorem Remains.cleanup {ready a : Auditor} {rules : List Rule} (hready : ready.Renewable tree)
    (h : ready.Remains tree rules a) : ready.Remains tree rules a.cleanup.auditor := by
  rcases h with hstands | hsleeps
  · exact .inr (hstands.cleanup hready)
  · exact .inr (hsleeps.cleanup hready)

/-- What is done between two runs: one more run with the same arguments, or shutting down. -/
inductive Interlude where
  | run
  | cleanup

/-- An auditor after some interludes. -/
def after (tree : FileTree) (files : List FilePath) (inputs : List RuleInput)
    (engine : Option String) : Auditor → List Interlude → Auditor
  | a, [] => a
  | a, .run :: rest => after tree files inputs engine (a.run tree files inputs engine).auditor rest
  | a, .cleanup :: rest => after tree files inputs engine a.cleanup.auditor rest

theorem Remains.after {ready a : Auditor} (hready : ready.Renewable tree)
    (h : ready.Remains tree (ready.rulesOf inputs engine) a) (interludes : List Interlude) :
    ready.Remains tree (ready.rulesOf inputs engine)
      (Auditor.after tree files inputs engine a interludes) := by
  induction interludes generalizing a with
  | nil => exact h
  | cons first rest ih =>
    cases first with
    | run => exact ih (h.run hready).2
    | cleanup => exact ih (h.cleanup hready)

/-- If the first run of a new auditor gives a result, so does every later run with the same
arguments, with any number of such runs and of shut-downs in between, and it is the same result. -/
theorem run_repeats (tree : FileTree) {a : Auditor} (h : a.Fresh) (files : List FilePath)
    (inputs : List RuleInput) (engine : Option String) {result : RunResult}
    (hrun : (a.run tree files inputs engine).result = .ok result) (interludes : List Interlude) :
    let later := after tree files inputs engine (a.run tree files inputs engine).auditor interludes
    (later.run tree files inputs engine).result = .ok result := by
  intro later
  obtain ⟨_, hsetUp, hresult, hauditor⟩ := AuditStep.exists_of_andThen_eq_ok hrun
  let ready := (a.setUp tree).auditor
  have hready : ready.Renewable tree := h.renewable hsetUp
  obtain ⟨-, hafter⟩ :=
    StandsBy.runReady hready files (hready.standsBy (ready.rulesOf inputs engine))
  have hlater : ready.Remains tree (ready.rulesOf inputs engine) later := by
    refine Remains.after hready (.inl ?_) interludes
    rw [show (a.run tree files inputs engine).auditor = _ from hauditor]
    exact hafter
  rw [(hlater.run hready).1]
  exact hresult

/-- An auditor as it is built, with the scanner, an engine that cannot be shut down, and one that
refuses to be set up. -/
def stubbornEngines : Auditor :=
  let stubborn : Engine := .ofBehaviour "stubborn" "1.0.0" [] true
    { declared := ["c"]
      tearDown := fun _ => some (.plain .runtime (some "busy"))
      analyze := fun _ _ =>
        { answer := .ok (.report { violations := [{ ruleId := "C", message := "seen" }] }) } } 1
  let refusing : Engine := .ofBehaviour "refusing" "1.0.0" [] true
    { declared := ["A"]
      setUp := fun _ _ => some (.plain .runtime (some "no"))
      analyze := fun _ _ => { answer := .ok (.report {}) } } 2
  { settings := { performance := { excludePatterns := [] } }
    catalog := .ofRules [{ id := "A", patterns := ["x"] }, { id := "C" }]
    registry :=
      { entries := [("refusing", refusing), ("heuristic", .scanner true), ("stubborn", stubborn)] } }

/-- The engine that refuses is gone, the scanner compiles its patterns again, and the third engine is
set up while it still is. -/
theorem run_repeats_stubborn :
    let tree : FileTree := [(["a.js"], .file (.text "x\n"))]
    let files := ["a.js"].map FilePath.ofText
    let inputs := ["C", "A"].map RuleInput.id
    let first := stubbornEngines.run tree files inputs none
    let later := after tree files inputs none first.auditor [.cleanup, .run, .cleanup, .cleanup]
    stubbornEngines.Fresh ∧ ∃ result, first.result = .ok result ∧
      result.violations.map Violation.ruleId = ["C", "A"] ∧
      (later.run tree files inputs none).result = .ok result := by
  intro tree files inputs first later
  have hfresh : stubbornEngines.Fresh :=
    { new := rfl
      catalog := Catalog.wellKeyed_ofRules _
      registry := ⟨by decide, by decide⟩
      engines := by
        intro entry hentry
        simp only [stubbornEngines, List.mem_cons, List.not_mem_nil, or_false] at hentry
        rcases hentry with rfl | rfl | rfl
        · exact .supplied rfl ⟨fun _ _ _ => rfl, fun _ _ _ => rfl, fun _ _ hf => by cases hf⟩
            (by decide)
        · exact .scanner rfl rfl
        · exact .supplied rfl ⟨fun _ _ _ => rfl, fun _ _ _ => rfl, fun _ _ hf => by cases hf; rfl⟩
            (by decide)
      factories := by
        intro factories hfactories entry hentry e he
        obtain rfl : factories = [(heuristicEngine, .scanner)] := by cases hfactories; rfl
        obtain rfl := List.mem_singleton.mp hentry
        cases he
        exact .scanner rfl rfl }
  have hshown : first.result.toOption.map (fun r => r.violations.map Violation.ruleId) =
      some ["C", "A"] := by decide +kernel
  cases hfirst : first.result with
  | error f =>
    rw [hfirst] at hshown
    cases hshown
  | ok result =>
    rw [hfirst] at hshown
    exact ⟨hfresh, result, rfl, Option.some.inj hshown,
      run_repeats tree hfresh files inputs none hfirst _⟩

end Runs

end Auditor

end RuleAudit
