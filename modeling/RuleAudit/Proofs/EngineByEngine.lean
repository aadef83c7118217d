import RuleAudit.Proofs.Keyed
import RuleAudit.Proofs.Registration

/-!
# Engine by engine

Setting up and shutting down go through the engines of a registry in their order. When every engine
stands under its own identifier, and under no other, what happens to one does not depend on what
happened to those before it: the engines that remain are those that can be set up, each set up as it
was (`Registry.setUpAll_eq`), and all are shut down (`Registry.tearDownAll_eq`).
-/

namespace RuleAudit

/-- Loading changes nothing in a catalog: it is loaded already, or loading it fails. -/
def Catalog.Settled (tree : FileTree) (c : Catalog) : Prop :=
  ∀ c', c.load tree = .ok c' → c' = c

theorem Catalog.settled_of_load_eq_ok {tree : FileTree} {c c' : Catalog}
    (h : c.load tree = .ok c') : c'.Settled tree := by
  intro c'' hload
  rw [load_of_isLoaded (isLoaded_of_load_eq_ok h)] at hload
  exact (Except.ok.inj hload).symm

theorem Catalog.settled_of_load_eq_error {tree : FileTree} {c : Catalog} {f : Fault}
    (h : c.load tree = .error f) : c.Settled tree := by
  intro c' hload
  rw [h] at hload
  cases hload

namespace Auditor

variable {tree : FileTree}

/-- Once its catalog has been loaded, an auditor has one that does not change any more. -/
theorem loadCatalog_settled {a : Auditor} (h : (a.loadCatalog tree).result = .ok ()) :
    (a.loadCatalog tree).auditor.catalog.Settled tree ∧
      ∀ f, (a.loadCatalog tree).auditor.catalog.load tree = .error f → f.isCatalog = true := by
  unfold loadCatalog at h ⊢
  split
  · rename_i c hc
    have hsettled := Catalog.settled_of_load_eq_ok hc
    refine ⟨hsettled, fun f hf => ?_⟩
    rw [Catalog.load_of_isLoaded (Catalog.isLoaded_of_load_eq_ok hc)] at hf
    cases hf
  · rename_i f hf
    rw [hf] at h
    dsimp only at h
    split at h
    · rename_i hcatalog
      rw [if_pos hcatalog]
      refine ⟨Catalog.settled_of_load_eq_error hf, fun g hg => ?_⟩
      obtain rfl : f = g := Except.error.inj (hf.symm.trans hg)
      exact hcatalog
    · cases h

theorem loadCatalog_of_settled {a : Auditor} (hsettled : a.catalog.Settled tree)
    (htolerated : ∀ f, a.catalog.load tree = .error f → f.isCatalog = true) :
    (a.loadCatalog tree).result = .ok () ∧ (a.loadCatalog tree).auditor = a := by
  unfold loadCatalog
  split
  · rename_i c hc
    rw [hsettled c hc]
    exact ⟨rfl, rfl⟩
  · rename_i f hf
    rw [if_pos (htolerated f hf)]
    exact ⟨rfl, rfl⟩

end Auditor

theorem Engine.setUp_catalog_of_settled {tree : FileTree} {c : Catalog} (h : c.Settled tree)
    (e : Engine) (settings : Keyed Value) : (e.setUp tree c settings).1 = c := by
  refine e.setUp_catalog (p := fun other => other = c) ?_ rfl settings
  intro other loaded hother hload
  subst hother
  exact h loaded hload

theorem Engine.tearDown_id (e : Engine) : e.tearDown.1.id = e.id := by
  unfold Engine.tearDown
  split
  · split <;> rfl
  · rfl

namespace Registry

/-- Every engine stands under its own identifier, and no identifier is used twice. -/
structure Distinct (r : Registry) : Prop where
  nodup : r.ids.Nodup
  keyed : ∀ entry ∈ r.entries, entry.2.id = entry.1

theorem Distinct.wellKeyed {r : Registry} (h : r.Distinct) : r.WellKeyed :=
  fun _ _ he => h.keyed _ (Keyed.mem_of_get? he)

theorem Distinct.register {r : Registry} (h : r.Distinct) (e : Engine) :
    (r.register e).1.Distinct where
  nodup := Keyed.nodup_keys_put h.nodup e.id e
  keyed := by
    intro entry hentry
    rcases Keyed.mem_put hentry with rfl | hold
    · rfl
    · exact h.keyed entry hold

/-- An engine with a new state keeps its place. -/
theorem ids_update (r : Registry) (e : Engine) : (r.update e).ids = r.ids := by
  unfold Registry.update
  split
  · rename_i hhas
    show (r.entries.put e.id e).keys = r.entries.keys
    rw [Keyed.keys_put, if_pos (Keyed.isSome_get?_iff.mp hhas)]
  · rfl

theorem Distinct.update {r : Registry} (h : r.Distinct) (e : Engine) : (r.update e).Distinct := by
  unfold Registry.update
  split
  · exact h.register e
  · exact h

theorem Distinct.remove {r : Registry} (h : r.Distinct) (id : String) : (r.remove id).Distinct where
  nodup := h.nodup.sublist (List.filter_sublist.map _)
  keyed := fun entry hentry => h.keyed entry (List.mem_filter.mp hentry).1

theorem update_append_cons {before after : Keyed Engine} {id : String} (e : Engine) {e' : Engine}
    (hbefore : id ∉ before.keys) (hid : e'.id = id) :
    ({ entries := before ++ (id, e) :: after } : Registry).update e' =
      { entries := before ++ (id, e') :: after } := by
  have hhas : Keyed.has (before ++ (id, e) :: after) id = true := by
    rw [Keyed.has, Keyed.get?_append_cons e hbefore]
    rfl
  rw [Registry.update, hid, if_pos hhas, Keyed.put_append_cons e e' hbefore]

/-! ## Setting up -/

section SetUp

variable (tree : FileTree) (c : Catalog) (settings : Keyed (Keyed Value))

/-- What setting up an engine under an identifier comes to. -/
def attempt (entry : String × Engine) : Engine × Except Fault Unit :=
  (entry.2.setUp tree c ((settings.get? entry.1).getD [])).2

/-- The engine under an identifier once it has been set up, unless it refused. -/
def survivor (entry : String × Engine) : Option (String × Engine) :=
  match (attempt tree c settings entry).2 with
  | .ok () => some (entry.1, (attempt tree c settings entry).1)
  | .error _ => none

/-- Why the engine under an identifier could not be set up. -/
def refusal (entry : String × Engine) : Option Fault :=
  match (attempt tree c settings entry).2 with
  | .ok () => none
  | .error f => some (.setUp entry.1 f)

variable {tree c settings}

theorem survivor_eq_some {entry entry' : String × Engine}
    (h : survivor tree c settings entry = some entry') :
    entry'.1 = entry.1 ∧ attempt tree c settings entry = (entry'.2, .ok ()) := by
  unfold survivor at h
  split at h
  · rename_i hready
    cases h
    exact ⟨rfl, Prod.ext rfl hready⟩
  · cases h

/-- The engines that remain do so in their order. -/
theorem keys_filterMap_survivor (entries : Keyed Engine) :
    (Keyed.keys (entries.filterMap (survivor tree c settings))).Sublist entries.keys := by
  induction entries with
  | nil => exact .slnil
  | cons entry rest ih =>
    cases hentry : survivor tree c settings entry with
    | none =>
      rw [List.filterMap_cons_none hentry]
      exact ih.trans (List.sublist_cons_self _ _)
    | some entry' =>
      rw [List.filterMap_cons_some hentry]
      have hkey := (survivor_eq_some hentry).1
      unfold Keyed.keys at ih ⊢
      rw [List.map_cons, List.map_cons, hkey]
      exact ih.cons_cons _

/-- An engine that remains was registered under its identifier, and has been set up. -/
theorem exists_of_mem_survivors {entries : Keyed Engine} {entry : String × Engine}
    (h : entry ∈ entries.filterMap (survivor tree c settings)) :
    ∃ e, (entry.1, e) ∈ entries ∧ attempt tree c settings (entry.1, e) = (entry.2, .ok ()) := by
  obtain ⟨⟨key, e⟩, hold, hsurvivor⟩ := List.mem_filterMap.mp h
  obtain ⟨hkey, hattempt⟩ := survivor_eq_some hsurvivor
  obtain rfl : entry.1 = key := hkey
  exact ⟨e, hold, hattempt⟩

theorem Distinct.survivors {r : Registry} (h : r.Distinct) :
    ({ entries := r.entries.filterMap (survivor tree c settings) } : Registry).Distinct where
  nodup := h.nodup.sublist (keys_filterMap_survivor r.entries)
  keyed := by
    intro entry hentry
    obtain ⟨e, hold, hattempt⟩ := exists_of_mem_survivors hentry
    have hid := e.setUp_id tree c ((settings.get? entry.1).getD [])
    unfold attempt at hattempt
    rw [hattempt] at hid
    exact hid.trans (h.keyed _ hold)

/-- Setting up one of several engines changes that one alone, or removes it. -/
theorem setUp_append_cons (hc : c.Settled tree) {before after : Keyed Engine} {id : String}
    {e : Engine} (hbefore : id ∉ before.keys) (hafter : id ∉ after.keys) (hkeyed : e.id = id)
    (hordinary : ∀ f, (attempt tree c settings (id, e)).2 = .error f → f.isOrdinary = true) :
    Registry.setUp tree c { entries := before ++ (id, e) :: after } id
        ((settings.get? id).getD []) =
      (c, { entries := before ++ (survivor tree c settings (id, e)).toList ++ after },
        (attempt tree c settings (id, e)).2.mapError fun f => .setUp id f) := by
  have hget : ({ entries := before ++ (id, e) :: after } : Registry).get? id = some e :=
    Keyed.get?_append_cons e hbefore
  have hcatalog := Engine.setUp_catalog_of_settled hc e ((settings.get? id).getD [])
  have hid := e.setUp_id tree c ((settings.get? id).getD [])
  unfold survivor
  unfold attempt at hordinary ⊢
  unfold Registry.setUp
  rw [hget]
  dsimp only at hordinary ⊢
  generalize e.setUp tree c ((settings.get? id).getD []) = course at hcatalog hid hordinary ⊢
  obtain ⟨c', e', result⟩ := course
  obtain rfl : c' = c := hcatalog
  have hname : e'.id = id := hid.trans hkeyed
  cases result with
  | error f =>
    dsimp only
    rw [if_pos (hordinary f rfl), Registry.remove, Keyed.erase_append_cons e hbefore hafter]
    simp [Except.mapError]
  | ok _ =>
    dsimp only
    rw [update_append_cons e hbefore hname]
    simp [Except.mapError]

/-- The keys of engines of which one has been set up or removed. -/
theorem nodup_keys_standing (tree : FileTree) (c : Catalog) (settings : Keyed (Keyed Value))
    {before after : Keyed Engine} {entry : String × Engine}
    (h : (Keyed.keys (before ++ entry :: after)).Nodup) :
    (Keyed.keys (before ++ (survivor tree c settings entry).toList ++ after)).Nodup := by
  refine h.sublist ?_
  simp only [Keyed.keys, List.map_append, List.map_cons, List.append_assoc]
  refine (List.Sublist.refl _).append ?_
  unfold survivor
  split
  · simp
  · simp

/-- The others are set up after the first of several engines. -/
theorem setUpAll_cons (hc : c.Settled tree) {before after : Keyed Engine}
    {entry : String × Engine} (hnodup : (Keyed.keys (before ++ entry :: after)).Nodup)
    (hkeyed : entry.2.id = entry.1)
    (hordinary : ∀ f, (attempt tree c settings entry).2 = .error f → f.isOrdinary = true) :
    let later := setUpAll tree settings c
      { entries := before ++ (survivor tree c settings entry).toList ++ after } (Keyed.keys after)
    setUpAll tree settings c { entries := before ++ entry :: after }
        (Keyed.keys (entry :: after)) =
      (later.1, later.2.1,
        later.2.2.map fun failures => (refusal tree c settings entry).toList ++ failures) := by
  obtain ⟨id, e⟩ := entry
  obtain ⟨hbefore, hafter⟩ := Keyed.not_mem_keys_of_nodup hnodup
  have hone := @setUp_append_cons tree c settings hc before after id e hbefore hafter hkeyed
    hordinary
  intro later
  show setUpAll tree settings c _ (id :: Keyed.keys after) = _
  unfold setUpAll refusal
  rw [hone]
  cases (attempt tree c settings (id, e)).2 with
  | ok _ =>
    show later = _
    obtain ⟨c', r', f | failures⟩ := later <;> rfl
  | error f =>
    dsimp only [Except.mapError]
    rw [if_pos (show (Fault.setUp id f).isOrdinary = true from rfl)]
    rw [show setUpAll tree settings c _ (Keyed.keys after) = later from rfl]
    obtain ⟨c', r', g | failures⟩ := later <;> rfl

/-- Setting up goes on whatever engines refuse with ordinary faults. -/
theorem setUpAll_append (hc : c.Settled tree) (before : Keyed Engine) {after : Keyed Engine}
    (hnodup : (Keyed.keys (before ++ after)).Nodup)
    (hkeyed : ∀ entry ∈ after, entry.2.id = entry.1)
    (hordinary : ∀ entry ∈ after, ∀ f, (attempt tree c settings entry).2 = .error f →
      f.isOrdinary = true) :
    setUpAll tree settings c { entries := before ++ after } (Keyed.keys after) =
      (c, { entries := before ++ after.filterMap (survivor tree c settings) },
        .ok (after.filterMap (refusal tree c settings))) := by
  induction after generalizing before with
  | nil => simp [setUpAll, Keyed.keys]
  | cons entry rest ih =>
    have hlater := ih _ (nodup_keys_standing tree c settings hnodup)
      (fun other hother => hkeyed other (List.mem_cons_of_mem _ hother))
      fun other hother => hordinary other (List.mem_cons_of_mem _ hother)
    rw [setUpAll_cons hc hnodup (hkeyed entry List.mem_cons_self)
      (hordinary entry List.mem_cons_self), hlater, List.append_assoc]
    cases hentry : survivor tree c settings entry <;>
      cases hrefusal : refusal tree c settings entry <;>
        simp [hentry, hrefusal, Except.map]

/-- The faults that setting up went past are ordinary. -/
theorem ordinary_of_setUpAll_append (hc : c.Settled tree) (before : Keyed Engine)
    {after : Keyed Engine}
    (hnodup : (Keyed.keys (before ++ after)).Nodup)
    (hkeyed : ∀ entry ∈ after, entry.2.id = entry.1) {failures : List Fault}
    (h : (setUpAll tree settings c { entries := before ++ after } (Keyed.keys after)).2.2 =
      .ok failures) :
    ∀ entry ∈ after, ∀ f, (attempt tree c settings entry).2 = .error f → f.isOrdinary = true := by
  induction after generalizing before failures with
  | nil => exact fun entry hentry => absurd hentry List.not_mem_nil
  | cons entry rest ih =>
    have hhead : ∀ f, (attempt tree c settings entry).2 = .error f → f.isOrdinary = true := by
      intro f hf
      by_contra hnot
      -- such a fault ends the set-up
      obtain ⟨id, e⟩ := entry
      have hget : ({ entries := before ++ (id, e) :: rest } : Registry).get? id = some e :=
        Keyed.get?_append_cons e (Keyed.not_mem_keys_of_nodup hnodup).1
      have hone : (Registry.setUp tree c { entries := before ++ (id, e) :: rest } id
          ((settings.get? id).getD [])).2.2 = .error f := by
        unfold attempt at hf
        unfold Registry.setUp
        rw [hget]
        dsimp only at hf ⊢
        generalize e.setUp tree c ((settings.get? id).getD []) = course at hf ⊢
        obtain ⟨c', e', result⟩ := course
        obtain rfl : result = .error f := hf
        dsimp only
        rw [if_neg hnot]
      rw [show Keyed.keys ((id, e) :: rest) = id :: Keyed.keys rest from rfl] at h
      unfold setUpAll at h
      generalize Registry.setUp tree c { entries := before ++ (id, e) :: rest } id _ = first
        at hone h
      obtain ⟨c', r', result⟩ := first
      obtain rfl : result = .error f := hone
      dsimp only at h
      rw [if_neg hnot] at h
      cases h
    rw [setUpAll_cons hc hnodup (hkeyed entry List.mem_cons_self) hhead] at h
    obtain ⟨later, hlater, -⟩ := exists_of_map_eq_ok h
    have hrest := ih _ (nodup_keys_standing tree c settings hnodup)
      (fun other hother => hkeyed other (List.mem_cons_of_mem _ hother)) hlater
    intro other hother
    rcases List.mem_cons.mp hother with rfl | hother
    · exact hhead
    · exact hrest other hother

/-- What setting up all engines of a registry comes to, if it comes to an end: the engines that
refuse are removed, and the others are set up. -/
theorem setUpAll_eq {r : Registry} (h : r.Distinct) (hc : c.Settled tree) {failures : List Fault}
    (hdone : (setUpAll tree settings c r r.ids).2.2 = .ok failures) :
    setUpAll tree settings c r r.ids =
      (c, { entries := r.entries.filterMap (survivor tree c settings) }, .ok failures) := by
  have hordinary := ordinary_of_setUpAll_append hc [] h.nodup h.keyed hdone
  have hall := setUpAll_append hc [] h.nodup h.keyed hordinary
  have hsame : setUpAll tree settings c r r.ids = _ := hall
  rw [hsame] at hdone ⊢
  rw [show Except.ok failures = _ from hdone.symm]
  rfl

/-- Engines that can all be set up are set up. -/
theorem setUpAll_eq_ok {r : Registry} (h : r.Distinct) (hc : c.Settled tree)
    (hready : ∀ entry ∈ r.entries, (attempt tree c settings entry).2 = .ok ()) :
    setUpAll tree settings c r r.ids =
      (c, { entries := r.entries.map fun entry => (entry.1, (attempt tree c settings entry).1) },
        .ok []) := by
  have hordinary : ∀ entry ∈ r.entries, ∀ f, (attempt tree c settings entry).2 = .error f →
      f.isOrdinary = true := by
    intro entry hentry f hf
    rw [hready entry hentry] at hf
    cases hf
  have hall := setUpAll_append hc [] h.nodup h.keyed hordinary
  have hsurvivors : r.entries.filterMap (survivor tree c settings) =
      r.entries.map fun entry => (entry.1, (attempt tree c settings entry).1) := by
    rw [← List.filterMap_eq_map]
    refine List.filterMap_congr fun entry hentry => ?_
    rw [survivor, hready entry hentry]
    rfl
  have hnone : r.entries.filterMap (refusal tree c settings) = [] := by
    refine List.filterMap_eq_nil_iff.mpr fun entry hentry => ?_
    rw [refusal, hready entry hentry]
  rw [hsurvivors, hnone] at hall
  exact hall

end SetUp

/-! ## Shutting down -/

/-- Shutting down one of several engines changes that one alone. -/
theorem tearDownEach_append (before : Keyed Engine) {after : Keyed Engine}
    (hnodup : (Keyed.keys (before ++ after)).Nodup)
    (hkeyed : ∀ entry ∈ after, entry.2.id = entry.1)
    (hordinary : ∀ entry ∈ after, ∀ f, entry.2.tearDown.2 = .error f → f.isOrdinary = true) :
    ∃ failures, tearDownEach { entries := before ++ after } (Keyed.keys after) =
      ({ entries := before ++ after.map fun entry => (entry.1, entry.2.tearDown.1) },
        .ok failures) := by
  induction after generalizing before with
  | nil => exact ⟨[], by simp [tearDownEach, Keyed.keys]⟩
  | cons entry rest ih =>
    obtain ⟨id, e⟩ := entry
    have hfresh := (Keyed.not_mem_keys_of_nodup hnodup).1
    have hget : ({ entries := before ++ (id, e) :: rest } : Registry).get? id = some e :=
      Keyed.get?_append_cons e hfresh
    have hname : e.tearDown.1.id = id := e.tearDown_id.trans (hkeyed (id, e) List.mem_cons_self)
    have hupdate : ({ entries := before ++ (id, e) :: rest } : Registry).update e.tearDown.1 =
        { entries := (before ++ [(id, e.tearDown.1)]) ++ rest } := by
      rw [update_append_cons e hfresh hname]
      simp
    have hshut : (Keyed.keys ((before ++ [(id, e.tearDown.1)]) ++ rest)).Nodup := by
      simpa [Keyed.keys] using hnodup
    obtain ⟨failures, hlater⟩ := ih _ hshut
      (fun other hother => hkeyed other (List.mem_cons_of_mem _ hother))
      fun other hother => hordinary other (List.mem_cons_of_mem _ hother)
    have hentries : before ++ ((id, e) :: rest).map (fun entry => (entry.1, entry.2.tearDown.1)) =
        before ++ [(id, e.tearDown.1)] ++ rest.map fun entry => (entry.1, entry.2.tearDown.1) := by
      simp
    rw [show Keyed.keys ((id, e) :: rest) = id :: Keyed.keys rest from rfl, hentries]
    unfold tearDownEach
    rw [hget]
    dsimp only
    have hhead : ∀ f, e.tearDown.2 = .error f → f.isOrdinary = true :=
      hordinary (id, e) List.mem_cons_self
    generalize e.tearDown = course at hhead hupdate hlater ⊢
    obtain ⟨e', result⟩ := course
    dsimp only at hupdate hlater hhead ⊢
    cases result with
    | ok _ =>
      dsimp only
      rw [hupdate]
      exact ⟨failures, hlater⟩
    | error f =>
      dsimp only
      rw [if_pos (hhead f rfl), hupdate, hlater]
      exact ⟨(id, f) :: failures, rfl⟩

/-- Every engine of a registry is shut down, whichever of them fail. -/
theorem tearDownAll_eq {r : Registry} (h : r.Distinct)
    (hordinary : ∀ entry ∈ r.entries, ∀ f, entry.2.tearDown.2 = .error f → f.isOrdinary = true) :
    ∃ failures, r.tearDownAll =
      ({ entries := r.entries.map fun entry => (entry.1, entry.2.tearDown.1) }, .ok failures) :=
  tearDownEach_append [] h.nodup h.keyed hordinary

end Registry

end RuleAudit
