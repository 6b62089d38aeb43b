import ScopeSearch.Log.Record
import ScopeSearch.Proofs.KeyedList
import ScopeSearch.Proofs.ValueRedaction

/-!
# What the line of a record says

Whoever reads the line of a record as JSON finds one object: the trace, the logger, the level, the
redacted message and the time, the exception if there is one, and then the redacted further fields.
No field can take the place of one of these, end the object or begin another line, whatever its name
and its value are, because a field with a name that is taken is left out and every text is read back
as it was.
-/

set_option autoImplicit false

namespace ScopeSearch

open Json (Content)

namespace Record

/-- A record with fields that can be shown, under distinct names that are not its own. -/
structure IsLoggable (r : Record) : Prop where
  distinct : r.extras.keys.Nodup
  free : ∀ name ∈ r.extras.keys, name ∉ ownNames
  writable : ∀ f ∈ r.extras, f.2.IsWritable

/-- The trace that a line tells: the one that the record has, or else that of the context. -/
inductive IsTrace (r : Record) (context : Option String) : Value → Prop
  | own {v : Value} : r.extras.find? "trace_id" = some v → v.isTruthy = true →
      IsTrace r context v
  | context {s : String} : (∀ v, r.extras.find? "trace_id" = some v → v.isTruthy = false) →
      context = some s → s ≠ "" → IsTrace r context (.text s)
  | unknown : (∀ v, r.extras.find? "trace_id" = some v → v.isTruthy = false) →
      (∀ s, context = some s → s = "") → IsTrace r context (.text "unknown")

/-- The names with which every line begins. -/
def leadingNames : List String :=
  ["trace_id", "logger", "level", "msg", "ts_utc"]

/-- The further fields that a line shows. -/
def shownExtras (r : Record) : List (String × Value) :=
  r.extras.filter fun f => f.1 ∉ reservedNames ∧ f.1 ∉ leadingNames

/-- What the line of a record says. -/
inductive IsToldBy (r : Record) (context : Option String) (time : String) :
    List (String × Content) → Prop
  | intro {trace : Value} {message : String} {further : List (String × Content)} :
      IsTrace r context trace →
      Template.messageOf r.message (.ofList r.arguments) = .ok message →
      List.Forall₂ (fun f m => m.1 = f.1 ∧ ∃ v, f.2.IsRedacted v ∧ m.2 = .ofValue v)
        r.shownExtras further →
      IsToldBy r context time
        ([("trace_id", .ofValue trace), ("logger", .text r.logger),
          ("level", .text (Level.lowerName r.level)), ("msg", .text (redact message)),
          ("ts_utc", .text time)] ++
          (r.failure.map fun failure => ("exc_info", .text (failureText failure))).toList ++
          further)

/-- The trace that a record is written with is the one it has. -/
theorem isTrace_trace (r : Record) (context : Option String) :
    r.IsTrace context (r.trace context) := by
  by_cases hown : ((r.extras.find? "trace_id").getD .null).isTruthy = true
  · have htrace : r.trace context = (r.extras.find? "trace_id").getD .null := if_pos hown
    rw [htrace]
    cases hfound : r.extras.find? "trace_id" with
    | none => simp [hfound, Value.isTruthy] at hown
    | some v => exact .own hfound (by simpa [hfound] using hown)
  · have hfalse (v : Value) (hv : r.extras.find? "trace_id" = some v) : v.isTruthy = false := by
      simpa [hv] using hown
    cases context with
    | none =>
      have htrace : r.trace none = .text unknownTrace := if_neg hown
      rw [htrace]
      exact .unknown hfalse (by simp)
    | some s =>
      have htrace : r.trace (some s) = .text (if s = "" then unknownTrace else s) := if_neg hown
      rw [htrace]
      by_cases hs : s = ""
      · rw [if_pos hs]
        exact .unknown hfalse (by simpa using hs)
      · rw [if_neg hs]
        exact .context hfalse rfl hs

/-- The fields at the beginning of a line whose message is given. -/
def leadingOf (r : Record) (context : Option String) (time message : String) :
    List (String × Value) :=
  [("trace_id", r.trace context), ("logger", .text r.logger),
    ("level", .text (Level.lowerName r.level)), ("msg", .text (redact message)),
    ("ts_utc", .text time)] ++
    (r.failure.map fun failure => ("exc_info", .text (failureText failure))).toList

/-- The fields of a line whose message is given. -/
def lineFields (r : Record) (context : Option String) (time message : String) :
    List (String × Value) :=
  r.leadingOf context time message ++ r.shownExtras.map fun f => (f.1, redactValue f.2)

/-- The leading fields are the five of every line, and the traceback behind them if there is one. -/
theorem names_leadingOf (r : Record) (context : Option String) (time message : String) :
    (r.leadingOf context time message).map Prod.fst = leadingNames ∨
      (r.leadingOf context time message).map Prod.fst = leadingNames ++ ["exc_info"] := by
  unfold leadingOf
  cases r.failure with
  | none => exact .inl rfl
  | some failure => exact .inr rfl

/-- The further fields of a line are the extras that it shows, redacted. -/
theorem extraFields_eq (r : Record) {taken : List String}
    (htaken : taken = leadingNames ∨ taken = leadingNames ++ ["exc_info"]) :
    r.extraFields taken = r.shownExtras.map fun f => (f.1, redactValue f.2) := by
  have hpredicate (f : String × Value) : (!reservedNames.contains f.1 && !taken.contains f.1) =
      decide (f.1 ∉ reservedNames ∧ f.1 ∉ leadingNames) := by
    rcases htaken with rfl | rfl
    · simp
    · have hreserved : "exc_info" ∈ reservedNames := by decide
      by_cases hname : f.1 = "exc_info"
      · simp [hname, hreserved]
      · simp [hname]
  simp only [extraFields, shownExtras, hpredicate]

section Loggable

variable {r : Record} (h : r.IsLoggable)

include h

/-- No extra of a record that can be logged has the name of an attribute of its own. -/
theorem IsLoggable.find?_own {name : String} (hname : name ∈ ownNames) :
    r.extras.find? name = none :=
  KeyedList.find?_eq_none_iff.mpr fun hmem => h.free name hmem hname

/-- The message of a record is its filled template, as long as no extra is called like it. -/
theorem IsLoggable.text_eq_ok_iff {message : String} :
    r.text = .ok message ↔ messageName ∉ r.extras.keys ∧
      Template.messageOf r.message (.ofList r.arguments) = .ok message := by
  have hmessage : r.messageValue = r.message := by
    rw [messageValue, h.find?_own (by decide)]
    rfl
  have harguments : r.messageArguments = .ofList r.arguments := by
    rw [messageArguments, h.find?_own (by decide)]
  rw [text, hmessage, harguments, ← KeyedList.has_iff]
  split
  · next hhas => simp [hhas]
  · next hhas => simp [hhas, mapError_eq_ok_iff]

/-- The fields of a line exist exactly if the message does. -/
theorem IsLoggable.fields_eq_ok_iff {context : Option String} {time : String}
    {fields : List (String × Value)} :
    r.fields context time = .ok fields ↔
      ∃ message, r.text = .ok message ∧ fields = r.lineFields context time message := by
  have hlogger : r.loggerValue = .text r.logger := by
    rw [loggerValue, h.find?_own (by decide)]
    rfl
  have hlevel : r.levelValue = .ok (.text (Level.lowerName r.level)) := by
    rw [levelValue, h.find?_own (by decide)]
  have hfailure : r.failureText? = .ok (r.failure.map failureText) := by
    rw [failureText?, h.find?_own (by decide)]
  have hleading : r.leadingFields context time =
      r.text.map (r.leadingOf context time) := by
    rw [leadingFields, hlevel, hfailure, hlogger]
    cases r.text with
    | error e => rfl
    | ok message =>
      rw [Except.map]
      unfold leadingOf
      cases r.failure <;> rfl
  rw [Record.fields, hleading, bind_eq_ok_iff]
  simp only [map_eq_ok_iff]
  constructor
  · rintro ⟨_, ⟨message, hmessage, rfl⟩, hfields⟩
    refine ⟨message, hmessage, ?_⟩
    rw [extraFields_eq r (names_leadingOf r context time message)] at hfields
    exact (Except.ok.inj hfields).symm
  · rintro ⟨message, hmessage, rfl⟩
    refine ⟨_, ⟨message, hmessage, rfl⟩, ?_⟩
    rw [extraFields_eq r (names_leadingOf r context time message)]
    rfl

/-- The trace of a record can be written. -/
theorem IsLoggable.isWritable_trace (context : Option String) : (r.trace context).IsWritable := by
  have htrace := isTrace_trace r context
  generalize r.trace context = v at htrace ⊢
  cases htrace with
  | own hfound _ => exact h.writable _ (KeyedList.mem_of_find? hfound)
  | context _ _ _ => exact Value.isWritable_text _
  | unknown _ _ => exact Value.isWritable_text _

/-- Every field of a line can be written. -/
theorem IsLoggable.isWritable_field {context : Option String} {time message : String}
    {f : String × Value} (hf : f ∈ r.lineFields context time message) : f.2.IsWritable := by
  rw [lineFields, leadingOf, List.mem_append, List.mem_append] at hf
  rcases hf with (hf | hf) | hf
  · simp only [List.mem_cons, List.not_mem_nil, or_false] at hf
    rcases hf with rfl | hf
    · exact h.isWritable_trace context
    · rcases hf with rfl | rfl | rfl | rfl <;> exact Value.isWritable_text _
  · rw [Option.mem_toList, Option.map_eq_some_iff] at hf
    obtain ⟨failure, -, rfl⟩ := hf
    exact Value.isWritable_text _
  · obtain ⟨extra, hextra, rfl⟩ := List.mem_map.mp hf
    exact (h.writable extra (List.mem_of_mem_filter hextra)).redactValue.1

/-- The names of the fields of a line are distinct. -/
theorem IsLoggable.nodup_lineFields (context : Option String) (time message : String) :
    ((r.lineFields context time message).map Prod.fst).Nodup := by
  have hshown : ∀ name ∈ r.shownExtras.map Prod.fst,
      name ∉ reservedNames ∧ name ∉ leadingNames := by
    intro name hname
    obtain ⟨f, hf, rfl⟩ := List.mem_map.mp hname
    simpa using (List.mem_filter.mp hf).2
  have hnodup : (r.shownExtras.map Prod.fst).Nodup :=
    h.distinct.sublist (List.filter_sublist.map Prod.fst)
  rw [lineFields, List.map_append, List.map_map]
  refine List.Nodup.append ?_ hnodup ?_
  · rcases names_leadingOf r context time message with hnames | hnames <;> rw [hnames] <;> decide
  · intro name hleading hname
    obtain ⟨hreserved, hnew⟩ := hshown name hname
    rcases names_leadingOf r context time message with hnames | hnames <;> rw [hnames] at hleading
    · exact hnew hleading
    · rcases List.mem_append.mp hleading with hleading | hleading
      · exact hnew hleading
      · rw [List.mem_singleton.mp hleading] at hreserved
        exact hreserved (by decide)

/-- The fields of a line say of the record what a line has to tell. -/
theorem IsLoggable.isToldBy {context : Option String} {time message : String}
    (hmessage : Template.messageOf r.message (.ofList r.arguments) = .ok message) :
    r.IsToldBy context time
      ((r.lineFields context time message).map fun f => (f.1, Content.ofValue f.2)) := by
  have hfurther : List.Forall₂ (fun f m => m.1 = f.1 ∧ ∃ v, f.2.IsRedacted v ∧ m.2 = .ofValue v)
      r.shownExtras (r.shownExtras.map fun f => (f.1, Content.ofValue (redactValue f.2))) := by
    rw [List.forall₂_map_right_iff, List.forall₂_same]
    intro f hf
    have hredacted := (h.writable f (List.mem_of_mem_filter hf)).redactValue.2
    exact ⟨rfl, redactValue f.2, hredacted, rfl⟩
  have htold : r.IsToldBy context time _ := .intro (isTrace_trace r context) hmessage hfurther
  simpa [lineFields, leadingOf, Content.ofValue, Option.toList_map, Function.comp_def] using htold

/-- The line of a record is the text of its fields, and exists as far as its message and that text
do. -/
theorem IsLoggable.line_eq_ok_iff {context : Option String}
    {time line : String} :
    r.line context time = .ok line ↔ ∃ message, r.text = .ok message ∧
      Json.render (.map ((r.lineFields context time message).map fun f => (.text f.1, f.2))) =
        .ok line := by
  rw [Record.line, bind_eq_ok_iff]
  simp only [h.fields_eq_ok_iff, mapError_eq_ok_iff]
  constructor
  · rintro ⟨_, ⟨message, hmessage, rfl⟩, hline⟩
    exact ⟨message, hmessage, hline⟩
  · rintro ⟨message, hmessage, hline⟩
    exact ⟨_, ⟨message, hmessage, rfl⟩, hline⟩

end Loggable

/-- A record has a line if its message can be made.  The line has no control characters, and it
says, and only says, what the record says, under distinct names. -/
theorem line_is_one_object_telling_the_record {r : Record} (h : r.IsLoggable)
    (context : Option String) (time : String) :
    ((∃ line, r.line context time = .ok line) ↔ messageName ∉ r.extras.keys ∧
      ∃ message, Template.messageOf r.message (.ofList r.arguments) = .ok message) ∧
    ∀ line, r.line context time = .ok line →
      (∀ c ∈ line.toList, 0x20 ≤ c.toNat) ∧
      ∃ members, r.IsToldBy context time members ∧ (members.map Prod.fst).Nodup ∧
        ∀ content, Json.IsText content line.toList ↔ content = .object members := by
  have hwritable (message : String) : (Value.map
      ((r.lineFields context time message).map fun f => (.text f.1, f.2))).IsWritable :=
    Json.isWritable_named fun f hf => h.isWritable_field hf
  constructor
  · simp only [h.line_eq_ok_iff]
    constructor
    · rintro ⟨line, message, hmessage, -⟩
      obtain ⟨hname, hfill⟩ := h.text_eq_ok_iff.mp hmessage
      exact ⟨hname, message, hfill⟩
    · rintro ⟨hname, message, hfill⟩
      obtain ⟨line, hline⟩ := (hwritable message).renders
      exact ⟨line, message, h.text_eq_ok_iff.mpr ⟨hname, hfill⟩, hline⟩
  · intro line hline
    obtain ⟨message, hmessage, hrender⟩ := h.line_eq_ok_iff.mp hline
    have hspells := Json.spells_render (hwritable message).wellFormed line hrender
    rw [Json.ofValue_named] at hspells
    refine ⟨hspells.printable, _, h.isToldBy (h.text_eq_ok_iff.mp hmessage).2, ?_, ?_⟩
    · rw [List.map_map]
      exact h.nodup_lineFields context time message
    · exact hspells.isText_iff

/-- A field named as the logger is left out, and a message that goes on like a line stays one
text. -/
theorem forged_fields_stay_inside :
    let r : Record :=
      { logger := "search", level := 20, message := .text "found %s",
        arguments := [.text "\n\"level\": 1"], failure := some ("E", "x\ny"),
        extras := [("logger", .text "forged"), ("trace_id", .text ""),
          ("mail", .tuple [.list [.text "+49 170 1234567"], .float .nan,
            .map [(.null, .text "\x1f")]])] }
    let line := "\x7b\"trace_id\": \"unknown\", \"logger\": \"search\", \"level\": \"info\", " ++
      "\"msg\": \"found \\n\\\"level\\\": 1\", \"ts_utc\": \"now\", \"exc_info\": \"E: x\\ny\", " ++
      "\"mail\": [[\"+4*************\"], NaN, \x7b\"null\": \"\\u001f\"\x7d]\x7d"
    r.IsLoggable ∧ r.line none "now" = .ok line ∧ (∀ c ∈ line.toList, 0x20 ≤ c.toNat) ∧
      ∃ members, r.IsToldBy none "now" members ∧ (members.map Prod.fst).Nodup ∧
        ∀ content, Json.IsText content line.toList ↔ content = .object members := by
  intro r line
  have hmail : (Value.tuple [.list [.text "+49 170 1234567"], .float .nan,
      .map [(.null, .text "\x1f")]]).IsWritable := by
    refine ⟨.tuple ?_, _, rfl⟩
    simp only [List.forall_mem_cons, List.not_mem_nil, false_implies, implies_true, and_true]
    refine ⟨.list ?_, .float trivial, .map ?_ ?_⟩
    all_goals simpa using .leaf rfl
  have hloggable : r.IsLoggable := by
    refine ⟨by decide, by decide, ?_⟩
    simp only [r, List.forall_mem_cons, List.not_mem_nil, false_implies, implies_true, and_true]
    exact ⟨Value.isWritable_text _, Value.isWritable_text _, hmail⟩
  have hline : r.line none "now" = .ok line := by decide +kernel
  exact ⟨hloggable, hline,
    (line_is_one_object_telling_the_record hloggable none "now").2 line hline⟩

end Record

end ScopeSearch
