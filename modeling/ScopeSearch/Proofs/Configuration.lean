import ScopeSearch.Configuration
import ScopeSearch.Proofs.KeyedList
import ScopeSearch.Proofs.Outcome

/-!
# What a loaded configuration consists of

Every entry of a loaded configuration was described in its file.  Its dashboard has the name of the
description and a policy, and every scope of its resource is the template of a condition that stands
there.
-/

set_option autoImplicit false

namespace ScopeSearch

/-- The conditions of a description are read one by one: the text of the first one makes a template
under the written name. -/
theorem conditionScopes_cons {name condition : Value} {rest : List (Value × Value)}
    {scopes : List (String × Scope)}
    (h : Configuration.conditionScopes ((name, condition) :: rest) = .ok scopes) :
    ∃ sql others, Configuration.conditionText? condition = some sql ∧
      Configuration.conditionScopes rest = .ok others ∧
      scopes = (name.written, (ScopeTemplate.ofCondition sql).toScope) :: others := by
  rw [Configuration.conditionScopes] at h
  split at h
  · cases h
  · next sql hsql =>
    obtain ⟨written, hwritten, h⟩ := bind_eq_ok_iff.mp h
    obtain ⟨others, hothers, h⟩ := bind_eq_ok_iff.mp h
    cases h
    rw [(Value.write_eq_ok_iff.mp (mapError_eq_ok_iff.mp hwritten)).2]
    exact ⟨sql, others, hsql, hothers, rfl⟩

/-- Every condition of a description makes a template. -/
theorem conditionScopes_mem {entries : List (Value × Value)} {scopes : List (String × Scope)}
    (h : Configuration.conditionScopes entries = .ok scopes) {p : String × Scope}
    (hp : p ∈ scopes) : ∃ sql, p.2 = (ScopeTemplate.ofCondition sql).toScope := by
  induction entries generalizing scopes with
  | nil =>
    cases h
    simp at hp
  | cons entry rest ih =>
    obtain ⟨sql, others, -, hothers, rfl⟩ := conditionScopes_cons h
    rw [List.mem_cons] at hp
    rcases hp with rfl | hp
    · exact ⟨sql, rfl⟩
    · exact ih hothers hp

/-- Every scope of a description is a template. -/
theorem scopes_mem {declared : Value} {scopes : Scopes}
    (h : Configuration.scopes declared = .ok scopes) {p : String × Scope} (hp : p ∈ scopes) :
    ∃ sql, p.2 = (ScopeTemplate.ofCondition sql).toScope := by
  unfold Configuration.scopes at h
  split at h
  · cases h
    simp at hp
  · obtain ⟨pairs, hpairs, rfl⟩ := map_eq_ok_iff.mp h
    rcases KeyedList.mem_putAll hp with hnil | hmem
    · simp at hnil
    · exact conditionScopes_mem hpairs hmem
  · cases h

/-- Every scope of a described resource is a template. -/
theorem definition_scopes_mem {name : String} {described : Value} {e : Entry}
    (h : Configuration.definition name described = .ok e) {p : String × Scope}
    (hp : p ∈ e.resource.scopes) : ∃ sql, p.2 = (ScopeTemplate.ofCondition sql).toScope := by
  unfold Configuration.definition at h
  split at h
  · obtain ⟨d, _, h⟩ := bind_eq_ok_iff.mp h
    obtain ⟨scopes, hscopes, h⟩ := bind_eq_ok_iff.mp h
    cases h
    exact scopes_mem hscopes hp
  · cases h

/-- A described dashboard has the name of the description, and a policy. -/
theorem definition_dashboard {name : String} {described : Value} {e : Entry}
    (h : Configuration.definition name described = .ok e) :
    e.dashboard.name = name ∧ ∃ policy, e.dashboard.scopePolicy = .ok policy := by
  unfold Configuration.definition at h
  split at h
  · obtain ⟨d, hd, h⟩ := bind_eq_ok_iff.mp h
    obtain ⟨scopes, -, h⟩ := bind_eq_ok_iff.mp h
    cases h
    obtain ⟨attributes, -, hd⟩ := bind_eq_ok_iff.mp hd
    obtain ⟨policy, hpolicy, hd⟩ := bind_eq_ok_iff.mp hd
    obtain ⟨table, -, hd⟩ := bind_eq_ok_iff.mp hd
    cases hd
    exact ⟨rfl, policy, mapError_eq_ok_iff.mp hpolicy⟩
  · cases h

/-! ## Files -/

/-- Descriptions are read one by one, the first under the written name of its key. -/
theorem definitions_cons {key described : Value} {rest : List (Value × Value)}
    {entries : List Entry}
    (h : Configuration.definitions ((key, described) :: rest) = .ok entries) :
    ∃ e others, Configuration.definition key.written described = .ok e ∧
      Configuration.definitions rest = .ok others ∧ entries = e :: others := by
  rw [Configuration.definitions] at h
  obtain ⟨name, hname, h⟩ := bind_eq_ok_iff.mp h
  obtain ⟨e, he, h⟩ := bind_eq_ok_iff.mp h
  obtain ⟨others, hothers, h⟩ := bind_eq_ok_iff.mp h
  cases h
  rw [(Value.write_eq_ok_iff.mp (mapError_eq_ok_iff.mp hname)).2]
  exact ⟨e, others, mapError_eq_ok_iff.mp he, hothers, rfl⟩

/-- Every loaded entry was described. -/
theorem definitions_mem {described : List (Value × Value)} {entries : List Entry}
    (h : Configuration.definitions described = .ok entries) {e : Entry} (he : e ∈ entries) :
    ∃ p ∈ described, Configuration.definition p.1.written p.2 = .ok e := by
  induction described generalizing entries with
  | nil =>
    cases h
    simp at he
  | cons first rest ih =>
    obtain ⟨key, v⟩ := first
    obtain ⟨entry, others, hentry, hothers, rfl⟩ := definitions_cons h
    rw [List.mem_cons] at he
    rcases he with rfl | he
    · exact ⟨(key, v), List.mem_cons_self, hentry⟩
    · obtain ⟨p, hp, hdefinition⟩ := ih hothers he
      exact ⟨p, List.mem_cons_of_mem _ hp, hdefinition⟩

/-- A text without carriage returns is read line by line as it is. -/
theorem withLineFeeds_of_not_mem {s : List Char} (h : '\r' ∉ s) : withLineFeeds s = s := by
  induction s with
  | nil => rfl
  | cons c rest ih =>
    rw [List.mem_cons, not_or] at h
    have hc : c ≠ '\r' := fun e => h.1 e.symm
    rw [withLineFeeds, ih h.2, if_neg hc]
    exact fun tail htail => absurd htail hc

/-- The octets of a text are read as the text. -/
theorem fromUTF8?_toUTF8 (s : String) : String.fromUTF8? s.toUTF8 = some s := by
  unfold String.fromUTF8?
  split
  · rfl
  · next hinvalid => exact absurd s.isValidUTF8 hinvalid

/-- The octets of a text without carriage returns are read as the text. -/
theorem textOf_toUTF8 {text : String} (hlines : '\r' ∉ text.toList) :
    Files.textOf text.toUTF8 = .ok text := by
  rw [Files.textOf, fromUTF8?_toUTF8]
  simp only [withLineFeeds_of_not_mem hlines, String.ofList_toList]

/-- A path that leads to a file gives the text that the file was written with. -/
theorem read?_of_follow {files : Files} {path : String} {p : Place} {text : String}
    (hnul : path.contains (Char.ofNat 0) = false) (hlength : Files.isTooLong path = false)
    (hfollow : files.follow (.start path) (Files.names path) = .ok (.file p))
    (hfind : files.contents.find? p = some text.toUTF8) (hlines : '\r' ∉ text.toList) :
    files.read? path = .ok (some text) := by
  unfold Files.read?
  rw [hnul, hlength, hfollow]
  simp only [bind, Except.bind, hfind, Bool.false_eq_true, if_false, Option.mapM_some,
    textOf_toUTF8 hlines]
  rfl

/-- The name of a file in the working directory. -/
def IsFileName (name : String) : Prop :=
  Char.ofNat 0 ∉ name.toList ∧ Files.isTooLong name = false ∧ Files.names name = [name] ∧
    name ≠ ".." ∧ name.utf8ByteSize ≤ Files.nameLimit ∧ Place.start name = Place.start ""

instance (name : String) : Decidable (IsFileName name) :=
  inferInstanceAs (Decidable (_ ∧ _))

/-- A file that stands alone in the working directory is found under its name. -/
theorem follow_alone {name : String} (hname : IsFileName name) (octets : ByteArray) :
    Files.follow { contents := [(Place.child (.start "") name, octets)] } (.start name)
      (Files.names name) = .ok (.file (Place.child (.start "") name)) := by
  obtain ⟨-, -, hnames, hup, hsize, hstart⟩ := hname
  have hdirectory : Files.isDirectory { contents := [(Place.child (.start "") name, octets)] }
      (Place.child (.start "") name) = false := rfl
  have hhas : KeyedList.has [(Place.child (.start "") name, octets)]
      (Place.child (.start "") name) = true := by
    simp [KeyedList.has, KeyedList.find?]
  rw [hnames, hstart, Files.follow, if_neg hup, if_neg (Nat.not_lt.mpr hsize), hdirectory, hhas]
  rfl

/-- A file that stands alone in the working directory is read as the text that it was written
with. -/
theorem read?_alone {name text : String} (hname : IsFileName name) (hlines : '\r' ∉ text.toList) :
    Files.read? { contents := [(Place.child (.start "") name, text.toUTF8)] } name =
      .ok (some text) := by
  have hfollow := follow_alone hname text.toUTF8
  obtain ⟨hnul, hlength, -⟩ := hname
  have hcontains : name.contains (Char.ofNat 0) = false := by
    rw [String.contains_char_eq]
    simpa using hnul
  apply read?_of_follow hcontains hlength hfollow
  · simp [KeyedList.find?]
  · exact hlines

/-- A file that is read is loaded by its text. -/
theorem load_of_read {files : Files} {path : String} {text : Option String}
    (h : files.read? path = .ok text) :
    Configuration.load files path = Configuration.ofText path text := by
  rw [Configuration.load, h]
  rfl

/-- A file with one description is loaded as one entry. -/
theorem exists_load_eq_singleton {files : Files} {path : String} {text : Option String}
    (h : files.read? path = .ok text)
    (hlength : (Configuration.ofText path text).toOption.map List.length = some 1) :
    ∃ e, Configuration.load files path = .ok [e] := by
  rw [load_of_read h]
  cases hentries : Configuration.ofText path text with
  | error err => simp [hentries, Except.toOption] at hlength
  | ok entries =>
    rw [hentries] at hlength
    obtain ⟨e, rfl⟩ := List.length_eq_one_iff.mp (by simpa [Except.toOption] using hlength)
    exact ⟨e, rfl⟩

/-- The descriptions of resources that the value of a file holds. -/
def resourceDescriptions (v : Value) : List (Value × Value) :=
  (Value.field "resources" (v.map?.getD [])).map?.getD []

/-- The file at a path describes a resource. -/
def Describes (files : Files) (path name : String) (described : Value) : Prop :=
  ∃ text v, files.read? path = .ok (some text) ∧ Yaml.valueOfText text = .ok v ∧
    ∃ p ∈ resourceDescriptions v, p.1.written = name ∧ p.2 = described

/-- The value of a text in a file is the value of the text. -/
theorem valueOfText_eq_ok {path text : String} {v : Value}
    (h : Configuration.valueOfText path text = .ok v) : Yaml.valueOfText text = .ok v := by
  unfold Configuration.valueOfText at h
  split at h
  · next hvalue =>
    cases h
    exact hvalue
  · cases h
  · cases h

/-- Every entry that a value gives was described in it. -/
theorem ofValue_mem {path : String} {v : Value} {entries : List Entry}
    (h : Configuration.ofValue path v = .ok entries) {e : Entry} (he : e ∈ entries) :
    ∃ p ∈ resourceDescriptions v, Configuration.definition p.1.written p.2 = .ok e := by
  unfold Configuration.ofValue at h
  split at h
  · next fields hfields =>
    dsimp only at h
    split at h
    · split at h
      · next described hdescribed =>
        rw [resourceDescriptions, hfields, Option.getD_some, hdescribed]
        exact definitions_mem h he
      · cases h
    · cases h
      cases he
  · cases h

/-- Every entry that a file gives was described in it. -/
theorem load_mem {files : Files} {path : String} {entries : List Entry}
    (h : Configuration.load files path = .ok entries) {e : Entry} (he : e ∈ entries) :
    ∃ name described, Describes files path name described ∧
      Configuration.definition name described = .ok e := by
  obtain ⟨content, hread, htext⟩ := bind_eq_ok_iff.mp h
  unfold Configuration.ofText at htext
  split at htext
  · cases htext
    cases he
  · next text =>
    split at htext
    · cases htext
      cases he
    · obtain ⟨v, hvalue, hentries⟩ := bind_eq_ok_iff.mp htext
      obtain ⟨p, hp, hdefinition⟩ := ofValue_mem hentries he
      exact ⟨p.1.written, p.2, ⟨text, v, mapError_eq_ok_iff.mp hread, valueOfText_eq_ok hvalue, p,
        hp, rfl, rfl⟩, hdefinition⟩

/-- A loaded dashboard has a policy. -/
theorem scopePolicy_of_load {files : Files} {path : String} {entries : List Entry}
    (h : Configuration.load files path = .ok entries) {e : Entry} (he : e ∈ entries) :
    ∃ policy, e.dashboard.scopePolicy = .ok policy := by
  obtain ⟨name, described, -, hdefinition⟩ := load_mem h he
  exact (definition_dashboard hdefinition).2

end ScopeSearch
