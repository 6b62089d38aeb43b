import Mathlib.Data.List.Forall2
import ScopeSearch.Proofs.Outcome
import ScopeSearch.Value.Serialized

/-!
# The form that values have in a response

A value is put into the form of a response part by part, through the lists, tuples and mappings in
it.  The laws follow the parts of a value:

* **result**: what a value becomes is told by a relation with one rule for each kind of value, and
  the rules of collections ask for the same of their parts, in order and under the same keys;
* **readiness**: what comes out holds nothing that a response does not have, however deep one looks;
* **rest**: a value that holds nothing of the kind is left alone, so a second time changes nothing;
* **refusal**: only a decimal that is no number and signals it has no counterpart, and a value has a
  form exactly if no such decimal stands in it.
-/

set_option autoImplicit false

namespace ScopeSearch

namespace Value

/-! ## Parts -/

/-- The values that a value holds directly: the elements of a list or a tuple, and the values of a
mapping. -/
def parts : Value → List Value
  | list items => items
  | tuple items => items
  | map entries => entries.map Prod.snd
  | marked _ v => [v]
  | _ => []

/-- A value stands in another one at some depth, or is that one. -/
inductive StandsIn (u : Value) : Value → Prop
  | self : StandsIn u u
  | part {v w : Value} (hw : w ∈ v.parts) (h : StandsIn u w) : StandsIn u v

/-- The parts of a value are smaller than the value. -/
theorem sizeOf_lt_of_mem_parts {v w : Value} (h : w ∈ v.parts) : sizeOf w < sizeOf v := by
  cases v with
  | list items =>
    have hitem : sizeOf w < sizeOf items := List.sizeOf_lt_of_mem h
    simp only [list.sizeOf_spec]
    omega
  | tuple items =>
    have hitem : sizeOf w < sizeOf items := List.sizeOf_lt_of_mem h
    simp only [tuple.sizeOf_spec]
    omega
  | map entries =>
    obtain ⟨e, he, rfl⟩ := List.mem_map.mp h
    have hentry := List.sizeOf_lt_of_mem he
    have hvalue : sizeOf e.2 < sizeOf e := by
      cases e
      simp only [Prod.mk.sizeOf_spec]
      omega
    simp only [map.sizeOf_spec]
    omega
  | marked mark v =>
    obtain rfl : w = v := by simpa [parts] using h
    simp only [marked.sizeOf_spec]
    omega
  | _ => simp [parts] at h

/-- What holds of a value when it holds of its parts holds of every value. -/
theorem induction_on_parts {P : Value → Prop} (h : ∀ v, (∀ w ∈ v.parts, P w) → P v) (v : Value) :
    P v :=
  h v fun w hw =>
    have := sizeOf_lt_of_mem_parts hw
    induction_on_parts h w
termination_by sizeOf v

/-- A value of a kind that responses do not have. -/
def isForeign : Value → Bool
  | decimal _ => true
  | date _ => true
  | dateTime _ => true
  | uuid _ => true
  | directive _ => true
  | filter _ => true
  | tuple _ => true
  | marked _ _ => true
  | _ => false

/-- Nothing in a value, at any depth, is of a kind that responses do not have. -/
def IsReady (v : Value) : Prop :=
  ∀ u, StandsIn u v → u.isForeign = false

/-- What stands in a value is the value itself or stands in one of its parts. -/
theorem standsIn_iff {u v : Value} : StandsIn u v ↔ u = v ∨ ∃ w ∈ v.parts, StandsIn u w := by
  constructor
  · rintro (_ | ⟨hw, h⟩)
    · exact .inl rfl
    · exact .inr ⟨_, hw, h⟩
  · rintro (rfl | ⟨w, hw, h⟩)
    · exact .self
    · exact .part hw h

/-- A value is ready exactly if it is not foreign and its parts are ready. -/
theorem isReady_iff {v : Value} :
    v.IsReady ↔ v.isForeign = false ∧ ∀ w ∈ v.parts, w.IsReady := by
  constructor
  · intro h
    exact ⟨h v .self, fun w hw u hu => h u (.part hw hu)⟩
  · rintro ⟨hself, hparts⟩ u hu
    obtain rfl | ⟨w, hw, hu⟩ := standsIn_iff.mp hu
    · exact hself
    · exact hparts w hw u hu

/-! ## Results -/

/-- What a value becomes in a response. -/
inductive Becomes : Value → Value → Prop
  /-- A value without parts, of a kind that responses have, stays. -/
  | kept {v : Value} (hkind : v.isForeign = false) (hparts : v.parts = []) : Becomes v v
  | decimal {d : Number.Decimal} {x : Number.Double} (h : d.toDouble = .ok x) :
      Becomes (decimal d) (float x)
  | date (d : Date) : Becomes (date d) (text d.text)
  | dateTime (t : DateTime) : Becomes (dateTime t) (text (t.textWith 'T'))
  | uuid (u : Uuid) : Becomes (uuid u) (text u.text)
  | directive (d : Directive) :
      Becomes (directive d) (map [(text "user_input", text d.userInput), (text "name", text d.name),
        (text "argument", d.argument.elim null text)])
  | filter (f : KeywordFilter) :
      Becomes (filter f) (map [(text "unfiltered", bool f.unfiltered),
        (text "attributes", list (f.attributes.map text)),
        (text "parameters", list (f.parameters.map text))])
  | list {items results : List Value} (h : List.Forall₂ Becomes items results) :
      Becomes (list items) (list results)
  | tuple {items results : List Value} (h : List.Forall₂ Becomes items results) :
      Becomes (tuple items) (list results)
  /-- A mapping keeps its keys and their order. -/
  | map {entries results : List (Value × Value)}
      (hkeys : results.map Prod.fst = entries.map Prod.fst)
      (hvalues : List.Forall₂ Becomes (entries.map Prod.snd) (results.map Prod.snd)) :
      Becomes (map entries) (map results)
  | marked {mark : Mark} {v w : Value} (h : Becomes v w) : Becomes (marked mark v) w

/-- What the rule for the kind of a value says that it becomes. -/
def KindBecomes (v w : Value) : Prop :=
  match v with
  | decimal d => ∃ x, d.toDouble = .ok x ∧ float x = w
  | date d => text d.text = w
  | dateTime t => text (t.textWith 'T') = w
  | uuid u => text u.text = w
  | directive d => ofDirective d = w
  | filter f => ofFilter f = w
  | list items => ∃ results, List.Forall₂ Becomes items results ∧ list results = w
  | tuple items => ∃ results, List.Forall₂ Becomes items results ∧ list results = w
  | map entries => ∃ results, (results.map Prod.fst = entries.map Prod.fst ∧
      List.Forall₂ Becomes (entries.map Prod.snd) (results.map Prod.snd)) ∧ map results = w
  | marked _ v => Becomes v w
  | v => v = w

/-- A missing argument is null in the fields of a directive. -/
theorem ofDirective_eq (d : Directive) :
    ofDirective d = map [(text "user_input", text d.userInput), (text "name", text d.name),
      (text "argument", d.argument.elim null text)] := by
  rw [ofDirective]
  cases d.argument <;> rfl

/-- What a value becomes is told by the rule for its kind: the rule for values that stay is only for
kinds that responses have, and says of an empty collection what the rule for collections says. -/
theorem becomes_iff_kind {v w : Value} : Becomes v w ↔ KindBecomes v w := by
  constructor
  · rintro (⟨hkind, hparts⟩ | hx | _ | _ | _ | d | _ | h | h | ⟨hkeys, hvalues⟩ | h)
    case kept =>
      cases v with
      | decimal | date | dateTime | uuid | directive | filter | tuple | marked => cases hkind
      | list items =>
        obtain rfl : items = [] := hparts
        exact ⟨[], .nil, rfl⟩
      | map entries =>
        obtain rfl : entries = [] := List.map_eq_nil_iff.mp hparts
        exact ⟨[], ⟨rfl, .nil⟩, rfl⟩
      | _ => rfl
    case decimal => exact ⟨_, hx, rfl⟩
    case directive => exact ofDirective_eq d
    case list => exact ⟨_, h, rfl⟩
    case tuple => exact ⟨_, h, rfl⟩
    case map => exact ⟨_, ⟨hkeys, hvalues⟩, rfl⟩
    case marked => exact h
    all_goals rfl
  · intro h
    cases v with
    | decimal d =>
      obtain ⟨x, hx, rfl⟩ := h
      exact .decimal hx
    | list items =>
      obtain ⟨results, hresults, rfl⟩ := h
      exact .list hresults
    | tuple items =>
      obtain ⟨results, hresults, rfl⟩ := h
      exact .tuple hresults
    | map entries =>
      obtain ⟨results, ⟨hkeys, hresults⟩, rfl⟩ := h
      exact .map hkeys hresults
    | marked mark v => exact .marked h
    | directive d =>
      obtain rfl := (ofDirective_eq d).symm.trans h
      exact .directive d
    | date d => exact h ▸ .date d
    | dateTime t => exact h ▸ .dateTime t
    | uuid u => exact h ▸ .uuid u
    | filter f => exact h ▸ .filter f
    | _ =>
      obtain rfl := h
      exact .kept rfl rfl

/-- The elements of a list are serialized one by one. -/
theorem serializedItems_eq_ok_iff {items results : List Value} :
    serializedItems items = .ok results ↔
      List.Forall₂ (fun v w => serialized v = .ok w) items results := by
  induction items generalizing results with
  | nil => cases results <;> simp [serializedItems]
  | cons v rest ih =>
    rw [serializedItems, List.forall₂_cons_left_iff]
    simp only [bind_eq_ok_iff, ih, pure, Except.pure, Except.ok.injEq]
    constructor
    · rintro ⟨w, hw, others, hothers, rfl⟩
      exact ⟨w, others, hw, hothers, rfl⟩
    · rintro ⟨w, others, hw, hothers, rfl⟩
      exact ⟨w, hw, others, hothers, rfl⟩

/-- The entries of a mapping keep their keys, and their values are serialized one by one. -/
theorem serializedEntries_eq_ok_iff {entries results : List (Value × Value)} :
    serializedEntries entries = .ok results ↔
      results.map Prod.fst = entries.map Prod.fst ∧
        List.Forall₂ (fun v w => serialized v = .ok w) (entries.map Prod.snd)
          (results.map Prod.snd) := by
  induction entries generalizing results with
  | nil => cases results <;> simp [serializedEntries]
  | cons e rest ih =>
    obtain ⟨k, v⟩ := e
    rw [serializedEntries]
    simp only [bind_eq_ok_iff, ih, pure, Except.pure, Except.ok.injEq]
    constructor
    · rintro ⟨w, hw, others, ⟨hkeys, hvalues⟩, rfl⟩
      exact ⟨by simp [hkeys], .cons hw hvalues⟩
    · rintro ⟨hkeys, hvalues⟩
      cases results with
      | nil => simp at hkeys
      | cons r others =>
        obtain ⟨hkey, hkeys⟩ := List.cons.inj hkeys
        rw [List.map_cons, List.map_cons, List.forall₂_cons] at hvalues
        have hentry : (k, r.2) = r := Prod.ext hkey.symm rfl
        exact ⟨r.2, hvalues.1, others, ⟨hkeys, hvalues.2⟩, by rw [hentry]⟩

/-- Relations that agree on the elements of a list relate it to the same lists. -/
theorem forall₂_congr_mem {α β : Type} {R S : α → β → Prop} {l : List α} {m : List β}
    (h : ∀ a ∈ l, ∀ b, R a b ↔ S a b) : List.Forall₂ R l m ↔ List.Forall₂ S l m := by
  induction l generalizing m with
  | nil => simp
  | cons a l ih =>
    rw [List.forall_mem_cons] at h
    rw [List.forall₂_cons_left_iff, List.forall₂_cons_left_iff]
    simp only [h.1, ih h.2]

/-- A value is put into the form of a response exactly if that is what it becomes. -/
theorem serialized_eq_ok_iff {v w : Value} : serialized v = .ok w ↔ Becomes v w := by
  induction v using induction_on_parts generalizing w with
  | h v ih =>
    have hparts {results : List Value} :
        List.Forall₂ (fun u w => serialized u = .ok w) v.parts results ↔
          List.Forall₂ Becomes v.parts results :=
      forall₂_congr_mem fun u hu w => ih u hu
    rw [becomes_iff_kind]
    cases v with
    | decimal d => exact map_eq_ok_iff
    | list items =>
      rw [serialized, map_eq_ok_iff]
      simp only [serializedItems_eq_ok_iff]
      exact exists_congr fun results => and_congr_left' hparts
    | tuple items =>
      rw [serialized, map_eq_ok_iff]
      simp only [serializedItems_eq_ok_iff]
      exact exists_congr fun results => and_congr_left' hparts
    | map entries =>
      rw [serialized, map_eq_ok_iff]
      simp only [serializedEntries_eq_ok_iff]
      exact exists_congr fun results => and_congr_left' (and_congr_right' hparts)
    | marked mark v => exact ih v List.mem_cons_self
    | _ =>
      -- every other kind of value has one form
      exact ⟨Except.ok.inj, congrArg Except.ok⟩

/-! ## Readiness -/

/-- Texts are ready. -/
theorem isReady_text (s : String) : (text s).IsReady :=
  isReady_iff.mpr ⟨rfl, by simp [parts]⟩

/-- A list is ready if its elements are. -/
theorem isReady_list {items : List Value} (h : ∀ v ∈ items, v.IsReady) : (list items).IsReady :=
  isReady_iff.mpr ⟨rfl, h⟩

/-- A mapping is ready if its values are. -/
theorem isReady_map {entries : List (Value × Value)} (h : ∀ v ∈ entries.map Prod.snd, v.IsReady) :
    (map entries).IsReady :=
  isReady_iff.mpr ⟨rfl, h⟩

/-- A list of texts is ready. -/
theorem isReady_texts (ss : List String) : (list (ss.map text)).IsReady := by
  apply isReady_list
  intro v hv
  obtain ⟨s, -, rfl⟩ := List.mem_map.mp hv
  exact isReady_text s

/-- Whatever stands in the second of two related lists is related to an element of the first. -/
theorem exists_of_mem_right {α β : Type} {R : α → β → Prop} {l : List α} {m : List β}
    (h : List.Forall₂ R l m) {b : β} (hb : b ∈ m) : ∃ a ∈ l, R a b := by
  induction h with
  | nil => cases hb
  | cons hr _ ih =>
    obtain rfl | hb := List.mem_cons.mp hb
    · exact ⟨_, List.mem_cons_self, hr⟩
    · obtain ⟨a, ha, hr⟩ := ih hb
      exact ⟨a, List.mem_cons_of_mem _ ha, hr⟩

/-- What a value becomes is ready for a response. -/
theorem Becomes.isReady {v w : Value} (h : Becomes v w) : w.IsReady := by
  induction v using induction_on_parts generalizing w with
  | h v ih =>
    have hready {results : List Value} (hresults : List.Forall₂ Becomes v.parts results) :
        ∀ u ∈ results, u.IsReady := by
      intro u hu
      obtain ⟨x, hx, hu⟩ := exists_of_mem_right hresults hu
      exact ih x hx hu
    cases h with
    | kept hkind hparts => exact isReady_iff.mpr ⟨hkind, by simp [hparts]⟩
    | decimal _ => exact isReady_iff.mpr ⟨rfl, by simp [parts]⟩
    | date d => exact isReady_text _
    | dateTime t => exact isReady_text _
    | uuid u => exact isReady_text _
    | directive d =>
      have hargument : (d.argument.elim null text).IsReady := by
        cases d.argument with
        | none => exact isReady_iff.mpr ⟨rfl, by simp [parts]⟩
        | some s => exact isReady_text s
      apply isReady_map
      simp [isReady_text, hargument]
    | filter f =>
      have hunfiltered : (bool f.unfiltered).IsReady := isReady_iff.mpr ⟨rfl, by simp [parts]⟩
      apply isReady_map
      simp [isReady_texts, hunfiltered]
    | list hresults => exact isReady_list (hready hresults)
    | tuple hresults => exact isReady_list (hready hresults)
    | map _ hresults => exact isReady_map (hready hresults)
    | marked h => exact ih _ List.mem_cons_self h

/-- A value that is ready for a response becomes itself. -/
theorem IsReady.becomes_self {v : Value} (h : v.IsReady) : Becomes v v := by
  induction v using induction_on_parts with
  | h v ih =>
    obtain ⟨hkind, hparts⟩ := isReady_iff.mp h
    have hself : List.Forall₂ Becomes v.parts v.parts := by
      rw [List.forall₂_same]
      exact fun u hu => ih u hu (hparts u hu)
    cases v with
    | list items => exact .list hself
    | map entries => exact .map rfl hself
    | decimal | date | dateTime | uuid | directive | filter | tuple | marked => cases hkind
    | _ => exact .kept rfl rfl

/-! ## Refusal -/

/-- A decimal that is no number and signals it. -/
def IsSignalingNan (v : Value) : Prop :=
  ∃ negative payload, v = decimal (.nan negative true payload)

/-- A decimal has a floating-point form exactly if it is not a signaling NaN. -/
theorem exists_toDouble_iff {d : Number.Decimal} :
    (∃ x, d.toDouble = .ok x) ↔ ¬ IsSignalingNan (decimal d) := by
  cases d with
  | nan negative signaling payload =>
    cases signaling <;> simp [Number.Decimal.toDouble, IsSignalingNan]
  | infinite negative => simp [Number.Decimal.toDouble, IsSignalingNan]
  | finite negative coefficient exponent => simp [Number.Decimal.toDouble, IsSignalingNan]

/-- A list has results when all of its elements have. -/
theorem exists_forall₂_iff {α β : Type} {R : α → β → Prop} {l : List α} :
    (∃ m, List.Forall₂ R l m) ↔ ∀ a ∈ l, ∃ b, R a b := by
  induction l with
  | nil => simp
  | cons a l ih =>
    rw [List.forall_mem_cons, ← ih]
    constructor
    · rintro ⟨_, _ | ⟨hr, hrest⟩⟩
      exact ⟨⟨_, hr⟩, _, hrest⟩
    · rintro ⟨⟨b, hr⟩, m, hrest⟩
      exact ⟨b :: m, .cons hr hrest⟩

/-- The parts of a value that becomes something do so too. -/
theorem Becomes.exists_parts {v w : Value} (h : Becomes v w) :
    ¬ IsSignalingNan v ∧ ∃ results, List.Forall₂ Becomes v.parts results := by
  cases h with
  | kept hkind hnone =>
    refine ⟨?_, [], by rw [hnone]; exact .nil⟩
    rintro ⟨_, _, rfl⟩
    cases hkind
  | decimal hx => exact ⟨exists_toDouble_iff.mp ⟨_, hx⟩, [], .nil⟩
  | list h => exact ⟨by simp [IsSignalingNan], _, h⟩
  | tuple h => exact ⟨by simp [IsSignalingNan], _, h⟩
  | map _ h => exact ⟨by simp [IsSignalingNan], _, h⟩
  | marked h => exact ⟨by simp [IsSignalingNan], [_], .cons h .nil⟩
  | _ => exact ⟨by simp [IsSignalingNan], [], .nil⟩

/-- A value becomes something when its parts do and it is no decimal without a counterpart. -/
theorem exists_becomes_iff_parts {v : Value} :
    (∃ w, Becomes v w) ↔ ¬ IsSignalingNan v ∧ ∀ u ∈ v.parts, ∃ w, Becomes u w := by
  rw [← exists_forall₂_iff]
  constructor
  · rintro ⟨w, h⟩
    exact h.exists_parts
  · rintro ⟨hself, results, hresults⟩
    cases v with
    | decimal d =>
      obtain ⟨x, hx⟩ := exists_toDouble_iff.mpr hself
      exact ⟨_, .decimal hx⟩
    | list items => exact ⟨_, .list hresults⟩
    | tuple items => exact ⟨_, .tuple hresults⟩
    | map entries =>
      have hlength : (entries.map Prod.fst).length = results.length := by
        rw [← hresults.length_eq, parts, List.length_map, List.length_map]
      have hkeys : ((entries.map Prod.fst).zip results).map Prod.fst = entries.map Prod.fst :=
        List.map_fst_zip (Nat.le_of_eq hlength)
      have hvalues : List.Forall₂ Becomes (entries.map Prod.snd)
          (((entries.map Prod.fst).zip results).map Prod.snd) := by
        rw [List.map_snd_zip (Nat.le_of_eq hlength.symm)]
        exact hresults
      exact ⟨_, .map hkeys hvalues⟩
    | marked mark v =>
      cases hresults with
      | cons h _ => exact ⟨_, .marked h⟩
    | date d => exact ⟨_, .date d⟩
    | dateTime t => exact ⟨_, .dateTime t⟩
    | uuid u => exact ⟨_, .uuid u⟩
    | directive d => exact ⟨_, .directive d⟩
    | filter f => exact ⟨_, .filter f⟩
    | _ => exact ⟨_, .kept rfl rfl⟩

/-- A value becomes something exactly if no decimal without a counterpart stands in it. -/
theorem exists_becomes_iff {v : Value} :
    (∃ w, Becomes v w) ↔ ∀ u, StandsIn u v → ¬ IsSignalingNan u := by
  induction v using induction_on_parts with
  | h v ih =>
    rw [exists_becomes_iff_parts]
    constructor
    · rintro ⟨hself, hparts⟩ u hu
      obtain rfl | ⟨w, hw, hu⟩ := standsIn_iff.mp hu
      · exact hself
      · exact (ih w hw).mp (hparts w hw) u hu
    · intro h
      exact ⟨h v .self, fun w hw => (ih w hw).mpr fun u hu => h u (.part hw hu)⟩

/-- A value has a form in a response exactly if no decimal that signals that it is no number stands
in it.  The form is what the value becomes, kind by kind; nothing in it is of a kind that responses
do not have; and a value of which this holds already is its own form, so the form of the form is
itself. -/
theorem response_form_is_normal (v : Value) :
    ((∃ w, serialized v = .ok w) ↔ ∀ u, StandsIn u v → ¬ IsSignalingNan u) ∧
    (∀ w, serialized v = .ok w → Becomes v w ∧ w.IsReady ∧ serialized w = .ok w) ∧
    (v.IsReady → serialized v = .ok v) := by
  simp only [serialized_eq_ok_iff]
  refine ⟨exists_becomes_iff, ?_, IsReady.becomes_self⟩
  intro w h
  exact ⟨h, h.isReady, h.isReady.becomes_self⟩

/-- A decimal that signals that it is no number has no form in a response, although decimals are
among the values that are put into one. -/
theorem signaling_nan_has_no_response_form :
    ¬ ∃ w, serialized (list [decimal (.nan false true [])]) = .ok w := by
  rintro ⟨w, ⟨⟩⟩

end Value

end ScopeSearch
