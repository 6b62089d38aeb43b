import ScopeSearch.Proofs.Registry

/-!
# Registries over whole runs

A caller registers resources, clears a registry, looks names up and loads files, in any order, and
goes on when a step fails.  A step is a program over the registry and the events that were reported,
and what it has changed before it fails stays changed: it has to be shown that nothing is.

Every step keeps entries under their own names, each name once.  By induction this holds after any
steps, and from it follows what the next step does, whichever it is.
-/

set_option autoImplicit false

namespace ScopeSearch

/-! ## Steps -/

/-- What steps change: a registry, and the events that were reported. -/
structure RegistryState where
  registry : Registry := []
  events : List Event := []

/-- Why a step fails. -/
inductive RegistryError where
  | unknown (e : UnknownResource)
  | configuration (e : ConfigurationError)

/-- Programs over a registry. -/
abbrev RegistryM := ExceptT RegistryError (StateM RegistryState)

/-- What a caller does with a registry. -/
inductive RegistryStep where
  | register (d : Dashboard) (resource : Option Resource)
  | clear
  | get (name : String)
  | names
  | load (files : Files) (given : Option String) (configured : String)

/-- What a step returns. -/
inductive RegistryAnswer where
  | done
  | entry (e : Entry)
  | names (names : List String)

/-- The entry of a description and a resource, which may be left out. -/
def Entry.ofParts (d : Dashboard) : Option Resource → Entry
  | some resource => { dashboard := d, resource }
  | none => .ofDashboard d

/-- Registers the entries whose names are not among those that are there, one after the other. -/
def registerMissing : List Entry → RegistryM Unit
  | [] => return
  | e :: rest => do
    modify fun s =>
      if s.registry.names.contains e.dashboard.name then s
      else { s with registry := s.registry.register e }
    registerMissing rest

/-- The program of a step. -/
def RegistryStep.program : RegistryStep → RegistryM RegistryAnswer
  | register d resource => do
    modify fun s => { s with registry := s.registry.register (.ofParts d resource) }
    return .done
  | clear => do
    modify fun s => { s with registry := [] }
    return .done
  | get name => do
    let s ← MonadState.get
    return .entry (← MonadExcept.ofExcept ((s.registry.get name).mapError RegistryError.unknown))
  | names => return .names (← MonadState.get).registry.names
  | load files given configured => do
    let path := Registry.source given configured
    let loaded ← MonadExcept.ofExcept
      ((Configuration.load files path).mapError RegistryError.configuration)
    registerMissing loaded
    modify fun s => { s with events := s.events ++ [.registryLoaded path loaded.length] }
    return .done

/-- What a step returns or fails with, and what it leaves. -/
def RegistryStep.run (step : RegistryStep) (s : RegistryState) :
    Except RegistryError RegistryAnswer × RegistryState :=
  StateT.run (ExceptT.run step.program) s

/-- What any steps leave, failed ones among them. -/
def RegistryState.after (s : RegistryState) (steps : List RegistryStep) : RegistryState :=
  steps.foldl (fun s step => (step.run s).2) s

/-! ## What a step does -/

/-- Behind a step that succeeds the next one goes on from its state. -/
theorem run_bind_of_ok {α β : Type} {x : RegistryM α} {s s' : RegistryState} {a : α}
    (h : StateT.run (ExceptT.run x) s = (.ok a, s')) (f : α → RegistryM β) :
    StateT.run (ExceptT.run (x >>= f)) s = StateT.run (ExceptT.run (f a)) s' := by
  rw [ExceptT.run_bind, StateT.run_bind, h]
  rfl

/-- Registering the missing entries one by one registers what was loaded. -/
theorem run_registerMissing (entries : List Entry) (s : RegistryState) :
    StateT.run (ExceptT.run (registerMissing entries)) s =
      (.ok (), { s with registry := s.registry.registerLoaded entries }) := by
  induction entries generalizing s with
  | nil => rfl
  | cons e rest ih =>
    have hnames : s.registry.names.contains e.dashboard.name = s.registry.has e.dashboard.name := by
      rw [Bool.eq_iff_iff, List.contains_iff_mem, Registry.mem_names]
    have hstep : StateT.run (ExceptT.run (registerMissing (e :: rest))) s =
        StateT.run (ExceptT.run (registerMissing rest))
          (if s.registry.names.contains e.dashboard.name then s
            else { s with registry := s.registry.register e }) := rfl
    rw [hstep, ih, hnames]
    cases hhas : s.registry.has e.dashboard.name <;>
      simp [Registry.registerLoaded, Registry.registerNew, hhas]

namespace RegistryStep

/-- A file that cannot be loaded leaves the registry as it is. -/
theorem run_load_of_error {files : Files} {given : Option String} {configured : String}
    {e : ConfigurationError}
    (h : Configuration.load files (Registry.source given configured) = .error e)
    (s : RegistryState) : (load files given configured).run s = (.error (.configuration e), s) := by
  unfold RegistryStep.run program
  simp only [h]
  rfl

/-- A file that is loaded adds its entries and nothing else. -/
theorem run_load_of_ok {files : Files} {given : Option String} {configured : String}
    {entries : List Entry}
    (h : Configuration.load files (Registry.source given configured) = .ok entries)
    (s : RegistryState) :
    (load files given configured).run s = (.ok .done,
      { registry := s.registry.registerLoaded entries
        events := s.events ++
          [.registryLoaded (Registry.source given configured) entries.length] }) := by
  unfold RegistryStep.run program
  simp only [h]
  exact run_bind_of_ok (run_registerMissing entries s) _

/-- Registering one by one makes of the registry what loading in one go makes of it. -/
theorem run_load_eq_loadFrom (files : Files) (given : Option String) (configured : String)
    (s : RegistryState) :
    (load files given configured).run s =
      match s.registry.loadFrom files (Registry.source given configured) with
      | .ok (r, event) => (.ok .done, { registry := r, events := s.events ++ [event] })
      | .error e => (.error (.configuration e), s) := by
  unfold Registry.loadFrom
  cases hload : Configuration.load files (Registry.source given configured) with
  | error e => exact run_load_of_error hload s
  | ok entries => exact run_load_of_ok hload s

/-- Looking up a name changes nothing. -/
theorem run_get (name : String) (s : RegistryState) :
    (get name).run s =
      (((s.registry.get name).mapError RegistryError.unknown).map RegistryAnswer.entry, s) := by
  have hrun : (get name).run s = StateT.run (ExceptT.run (do
      return .entry
        (← MonadExcept.ofExcept ((s.registry.get name).mapError RegistryError.unknown)) :
      RegistryM RegistryAnswer)) s := rfl
  rw [hrun]
  cases s.registry.get name <;> rfl

/-- A name that is known is answered with its entry. -/
theorem run_get_known {name : String} {e : Entry} {s : RegistryState}
    (h : s.registry.find? name = some e) : (get name).run s = (.ok (.entry e), s) := by
  rw [run_get, Registry.get, h]
  rfl

/-- A name that is not known is answered with an error that names it. -/
theorem run_get_unknown {name : String} {s : RegistryState}
    (h : s.registry.find? name = none) : (get name).run s = (.error (.unknown ⟨name⟩), s) := by
  rw [run_get, Registry.get, h]
  rfl

/-- Every step keeps entries under their own names, each name once. -/
theorem run_isKeyed (step : RegistryStep) {s : RegistryState} (h : s.registry.IsKeyed) :
    (step.run s).2.registry.IsKeyed := by
  cases step with
  | register d resource => exact h.register (.ofParts d resource)
  | clear => exact Registry.isKeyed_nil
  | get name =>
    rw [run_get]
    exact h
  | names => exact h
  | load files given configured =>
    cases hload : Configuration.load files (Registry.source given configured) with
    | error e =>
      rw [run_load_of_error hload]
      exact h
    | ok entries =>
      rw [run_load_of_ok hload]
      exact h.registerLoaded entries

end RegistryStep

/-- Any steps keep a registry keyed by names. -/
theorem RegistryState.after_isKeyed (steps : List RegistryStep) {s : RegistryState}
    (h : s.registry.IsKeyed) : (s.after steps).registry.IsKeyed := by
  unfold RegistryState.after
  induction steps generalizing s with
  | nil => exact h
  | cons step rest ih => exact ih (step.run_isKeyed h)

/-! ## The law -/

namespace RegistryState

/-- What a successful load of entries makes of a state: entries that are there stay, of every other
name the first loaded entry is added, and one event reports how many were loaded. -/
structure IsLoaded (source : String) (entries : List Entry) (s s' : RegistryState) : Prop where
  kept : ∀ name e, s.registry.find? name = some e → s'.registry.find? name = some e
  added : ∀ name, s.registry.find? name = none →
    s'.registry.find? name = entries.find? fun e => e.dashboard.name == name
  reported : s'.events = s.events ++ [.registryLoaded source entries.length]

/-- What holds of a state that steps lead to, and of what the next step does to it. -/
structure ObeysLaw (s : RegistryState) : Prop where
  named : ∀ name e, s.registry.find? name = some e → e.dashboard.name = name
  increasing : s.registry.names.Pairwise (· < ·)
  names : RegistryStep.names.run s = (.ok (.names s.registry.names), s)
  get_known : ∀ name ∈ s.registry.names, ∃ e, s.registry.find? name = some e ∧
    (RegistryStep.get name).run s = (.ok (.entry e), s)
  get_unknown : ∀ name ∉ s.registry.names,
    (RegistryStep.get name).run s = (.error (.unknown ⟨name⟩), s)
  register : ∀ d resource, ∃ s', (RegistryStep.register d resource).run s = (.ok .done, s') ∧
    s'.registry.find? d.name = some (.ofParts d resource) ∧
    (∀ name ≠ d.name, s'.registry.find? name = s.registry.find? name) ∧ s'.events = s.events
  clear : RegistryStep.clear.run s = (.ok .done, { s with registry := [] })
  /-- A wrong description anywhere in the section of a file. -/
  rejected : ∀ files given configured described,
    Configuration.resourceSection files (Registry.source given configured) = .ok described →
    ∀ p ∈ described, ∀ fault, Configuration.definition p.1.written p.2 = .error fault →
      ∃ e, (RegistryStep.load files given configured).run s = (.error (.configuration e), s)
  /-- A file that cannot be loaded for any reason. -/
  failed : ∀ files given configured e,
    Configuration.load files (Registry.source given configured) = .error e →
      (RegistryStep.load files given configured).run s = (.error (.configuration e), s)
  loaded : ∀ files given configured entries,
    Configuration.load files (Registry.source given configured) = .ok entries →
    ∃ described s',
      Configuration.resourceSection files (Registry.source given configured) = .ok described ∧
      List.Forall₂ Configuration.IsEntryOf described entries ∧
      (RegistryStep.load files given configured).run s = (.ok .done, s') ∧
      IsLoaded (Registry.source given configured) entries s s' ∧
      ((RegistryStep.load files given configured).run s').2.registry = s'.registry

/-- The state after a load is one that has loaded the entries. -/
theorem isLoaded_registerLoaded (source : String) (entries : List Entry) (s : RegistryState) :
    IsLoaded source entries s
      { registry := s.registry.registerLoaded entries
        events := s.events ++ [.registryLoaded source entries.length] } := by
  constructor
  case kept =>
    intro name e h
    rw [Registry.find?_registerLoaded, h, Option.some_or]
  case added =>
    intro name h
    rw [Registry.find?_registerLoaded, h, Option.none_or]
  case reported => rfl

/-- A registry that is keyed by names obeys its law. -/
theorem obeysLaw_of_isKeyed {s : RegistryState} (h : s.registry.IsKeyed) : s.ObeysLaw := by
  constructor
  case named =>
    intro name e hfound
    exact h.named _ (KeyedList.mem_of_find? hfound)
  case increasing => exact Registry.names_increasing h.distinct
  case names => rfl
  case get_known =>
    intro name hname
    have hhas := Registry.mem_names.mp hname
    obtain ⟨e, he⟩ := Option.isSome_iff_exists.mp hhas
    exact ⟨e, he, RegistryStep.run_get_known he⟩
  case get_unknown =>
    intro name hname
    rw [Registry.mem_names, KeyedList.has, Option.isSome_iff_ne_none, not_not] at hname
    exact RegistryStep.run_get_unknown hname
  case register =>
    intro d resource
    have hname : (Entry.ofParts d resource).dashboard.name = d.name := by
      cases resource <;> rfl
    refine ⟨{ s with registry := s.registry.register (.ofParts d resource) }, rfl, ?_, ?_, rfl⟩
    · rw [Registry.find?_register, hname, if_pos (beq_self_eq_true _)]
    · intro name hne
      rw [Registry.find?_register, hname, if_neg]
      simpa using Ne.symm hne
  case clear => rfl
  case rejected =>
    intro files given configured described hsection p hp fault hfault
    obtain ⟨e, he⟩ := Configuration.exists_error_of_definition hsection hp hfault
    exact ⟨e, RegistryStep.run_load_of_error he s⟩
  case failed =>
    intro files given configured e he
    exact RegistryStep.run_load_of_error he s
  case loaded =>
    intro files given configured entries hload
    have hparts := hload
    rw [Configuration.load_eq] at hparts
    obtain ⟨described, hsection, hentries⟩ := bind_eq_ok_iff.mp hparts
    refine ⟨described, _, hsection, Configuration.forall₂_of_definitions hentries,
      RegistryStep.run_load_of_ok hload s, isLoaded_registerLoaded _ entries s, ?_⟩
    rw [RegistryStep.run_load_of_ok hload]
    exact Registry.registerLoaded_registerLoaded s.registry entries

end RegistryState

/-- The law of registries over whole runs.  Whatever steps were taken before, an entry stands under
its own name and names strictly increase; a name is found if and only if it is listed, and looking
it up changes nothing; registering touches one name alone; a file with a wrong description anywhere
changes nothing and reports nothing; and a file that is loaded leaves what is there, adds the first
entry of each other name, and changes nothing when it is loaded again. -/
theorem registry_obeys_law_after_any_steps (steps : List RegistryStep) :
    (RegistryState.after {} steps).ObeysLaw :=
  RegistryState.obeysLaw_of_isKeyed (RegistryState.after_isKeyed steps Registry.isKeyed_nil)

end ScopeSearch
