import DataAccess.Document.Basic
import DataAccess.Proofs.Outcome
import Mathlib.Data.List.Perm.Basic

/-!
Documents that are read as a value however the entries of their records are ordered. What reads a
text, a list or a field is given a document of the value, and reads the value from it; what reads a
structure does so from a record in which each field stands once and under its proper name.
-/
set_option autoImplicit false

namespace DataAccess

/-- The same document but for the order of entries in its records. -/
inductive Document.Rearranged : Document → Document → Prop where
  | refl (document : Document) : Rearranged document document
  | list {items others : List Document} (same : List.Forall₂ Rearranged items others) :
    Rearranged (.list items) (.list others)
  | record {entries aligned others : List (String × Document)}
    (keys : entries.map (·.1) = aligned.map (·.1))
    (values : List.Forall₂ Rearranged (entries.map (·.2)) (aligned.map (·.2)))
    (order : aligned.Perm others) : Rearranged (.record entries) (.record others)

/-- In all its arrangements the document is read as the value. -/
def Document.Reads {α : Type} (read : Document → Option α) (document : Document) (value : α) :
    Prop :=
  ∀ given, document.Rearranged given → read given = some value

/-- The fields that are read hold the documents that were written under their names. -/
def Fields.Carry (fields : Fields) (written : List (String × Document)) : Prop :=
  ∀ name document, written.lookup name = some document →
    ∃ given, fields.lookup name = some given ∧ document.Rearranged given

/-- Fields that are read under the names that they are written under. -/
structure Layout.Plain (layout : Layout) : Prop where
  distinct : layout.names.Nodup
  proper : ∀ name ∈ layout.names, layout.aliases.lookup name = none

/-- Under distinct keys, what is found is what stands there. -/
theorem lookup_eq_some_iff_mem {α : Type} {entries : List (String × α)}
    (distinct : (entries.map (·.1)).Nodup) (key : String) (value : α) :
    entries.lookup key = some value ↔ (key, value) ∈ entries := by
  induction entries with
  | nil => simp
  | cons entry rest ih =>
    obtain ⟨first, found⟩ := entry
    obtain ⟨absent, later⟩ := List.nodup_cons.1 distinct
    by_cases same : key = first
    · subst same
      have gone : (key, value) ∉ rest := fun member =>
        absent (List.mem_map.2 ⟨(key, value), member, rfl⟩)
      simp [gone, eq_comm]
    · rw [List.lookup_cons, beq_eq_false_iff_ne.2 same]
      simp [ih later, same]

namespace Document

theorem rearranged_list_iff (items : List Document) (given : Document) :
    (list items).Rearranged given ↔
      ∃ others, given = list others ∧ List.Forall₂ Rearranged items others := by
  constructor
  · rintro (_ | same)
    · exact ⟨items, rfl, List.forall₂_same.2 fun item _ => .refl item⟩
    · exact ⟨_, rfl, same⟩
  · rintro ⟨others, rfl, same⟩
    exact .list same

/-- An entry under the same key with an arrangement of its document. -/
def EntryRearranged (entry other : String × Document) : Prop :=
  entry.1 = other.1 ∧ entry.2.Rearranged other.2

theorem forall₂_entryRearranged_iff (entries aligned : List (String × Document)) :
    List.Forall₂ EntryRearranged entries aligned ↔
      entries.map (·.1) = aligned.map (·.1) ∧
        List.Forall₂ Rearranged (entries.map (·.2)) (aligned.map (·.2)) := by
  induction entries generalizing aligned with
  | nil => cases aligned <;> simp
  | cons entry rest ih =>
    cases aligned with
    | nil => simp
    | cons other others =>
      simp only [List.forall₂_cons, List.map_cons, List.cons.injEq, ih, EntryRearranged]
      exact and_and_and_comm

theorem rearranged_record_iff (entries : List (String × Document)) (given : Document) :
    (record entries).Rearranged given ↔
      ∃ aligned others, given = record others ∧ List.Forall₂ EntryRearranged entries aligned ∧
        aligned.Perm others := by
  constructor
  · rintro (_ | _ | ⟨keys, values, order⟩)
    · refine ⟨entries, entries, rfl, List.forall₂_same.2 ?_, .rfl⟩
      exact fun entry _ => ⟨rfl, .refl entry.2⟩
    · exact ⟨_, _, rfl, (forall₂_entryRearranged_iff _ _).2 ⟨keys, values⟩, order⟩
  · rintro ⟨aligned, others, rfl, same, order⟩
    obtain ⟨keys, values⟩ := (forall₂_entryRearranged_iff _ _).1 same
    exact .record keys values order

theorem rearranged_of_perm {entries others : List (String × Document)}
    (order : entries.Perm others) : (record entries).Rearranged (record others) :=
  (rearranged_record_iff _ _).2
    ⟨entries, others, rfl, List.forall₂_same.2 fun entry _ => ⟨rfl, .refl entry.2⟩, order⟩

section Values

variable {α β : Type} {read : Document → Option β}

theorem reads_text (value : String) : Reads text? (text value) value := by
  rintro _ ⟨⟩
  rfl

theorem reads_flag (value : Bool) : Reads flag? (flag value) value := by
  rintro _ ⟨⟩
  rfl

theorem reads_choice (format : DocumentFormat) (choices : List (String × α)) (name : String)
    (value : α) (known : choices.lookup name = some value) :
    Reads (choice? format choices) (text name) value := by
  rintro _ ⟨⟩
  exact known

/-- Null is read as none, so nothing that is written as null must be read as a value. -/
theorem reads_ofOption {write : α → Document} {read : Document → Option α}
    (nothing : read null = none) (each : ∀ value, Reads read (write value) value)
    (value : Option α) : Reads (orNull? read) (ofOption write value) value := by
  intro given rearranged
  cases value with
  | none =>
    cases rearranged
    rfl
  | some value =>
    have found := each value given rearranged
    have filled : given ≠ null := by
      rintro rfl
      rw [nothing] at found
      cases found
    rw [orNull?, found]
    · rfl
    · exact filled

theorem reads_list (write : α → Document) (value : α → β) (items : List α)
    (each : ∀ item, Reads read (write item) (value item)) :
    Reads (listOf? read) (list (items.map write)) (items.map value) := by
  intro given rearranged
  obtain ⟨others, rfl, same⟩ := (rearranged_list_iff _ _).1 rearranged
  rw [listOf?, mapM_eq_some_iff]
  rw [List.forall₂_map_left_iff] at same
  rw [List.forall₂_map_right_iff]
  exact same.flip.imp fun other item arranged => each item other arranged

theorem reads_texts (values : List String) : Reads texts? (texts values) values := by
  have reads := reads_list text id values reads_text
  rwa [List.map_id] at reads

end Values

/-- What is found in a record under a key is found in its arrangements, arranged. -/
theorem carry_of_rearranged {written aligned others : List (String × Document)}
    (same : List.Forall₂ EntryRearranged written aligned) (order : aligned.Perm others)
    (distinct : (written.map (·.1)).Nodup) : Fields.Carry others written := by
  intro name document found
  have keys := ((forall₂_entryRearranged_iff _ _).1 same).1
  have apart : (others.map (·.1)).Nodup := (order.map _).nodup_iff.1 (keys ▸ distinct)
  obtain ⟨⟨key, arranged⟩, member, rfl, rearranged⟩ := exists_of_mem_forall₂ same.flip
    (name, document) ((lookup_eq_some_iff_mem distinct name document).1 found)
  exact ⟨arranged, (lookup_eq_some_iff_mem apart _ _).2 (order.mem_iff.1 member), rearranged⟩

/-- The fields of a structure that is written with all of them, in order. -/
theorem fields?_of_rearranged (format : DocumentFormat) {layout : Layout} (plain : layout.Plain)
    {written : List (String × Document)} (whole : written.map (·.1) = layout.names)
    (given : Document) (rearranged : (record written).Rearranged given) :
    ∃ fields, given.fields? format layout = some fields ∧ Fields.Carry fields written := by
  obtain ⟨aligned, others, rfl, same, order⟩ := (rearranged_record_iff _ _).1 rearranged
  have keys := ((forall₂_entryRearranged_iff _ _).1 same).1
  have names : (others.map (·.1)).Perm layout.names := by
    rw [← whole, keys]
    exact (order.map _).symm
  have known : ∀ entry ∈ others, entry.1 ∈ layout.names := fun entry member =>
    names.mem_iff.1 (List.mem_map_of_mem member)
  have proper : others.map (fun entry => (layout.properName entry.1, entry.2)) = others := by
    apply map_eq_self
    intro entry member
    rw [Layout.properName, plain.proper entry.1 (known entry member)]
    rfl
  have kept : others.filter (fun entry => layout.names.contains entry.1) = others := by
    apply List.filter_eq_self.2
    intro entry member
    exact List.contains_iff_mem.2 (known entry member)
  refine ⟨others, ?_, carry_of_rearranged same order (whole ▸ plain.distinct)⟩
  simp only [fields?, proper, kept, names.nodup_iff.2 plain.distinct, if_true]

/-- A structure is read from its document if it is read from fields that hold its entries. -/
theorem reads_structure {α : Type} (format : DocumentFormat) {layout : Layout}
    (plain : layout.Plain) {written : List (String × Document)}
    (whole : written.map (·.1) = layout.names) {read : Fields → Option α} {value : α}
    (each : ∀ fields, Fields.Carry fields written → read fields = some value) :
    Reads (fun document => document.fields? format layout >>= read) (record written) value := by
  intro given rearranged
  obtain ⟨fields, found, carry⟩ := fields?_of_rearranged format plain whole given rearranged
  show (given.fields? format layout >>= read) = some value
  rw [found]
  exact each fields carry

end Document

namespace Fields

variable {α : Type} {fields : Fields} {written : List (String × Document)} {document : Document}
  {read : Document → Option α}

theorem Carry.required (carry : fields.Carry written) (name : String)
    (found : written.lookup name = some document) {value : α}
    (reads : document.Reads read value) : fields.required name read = some value := by
  obtain ⟨given, here, rearranged⟩ := carry name document found
  rw [Fields.required, here]
  exact reads given rearranged

theorem Carry.defaulted (carry : fields.Carry written) (name : String)
    (found : written.lookup name = some document) {value : α}
    (reads : document.Reads read value) (default : α) :
    fields.defaulted name read default = some value := by
  obtain ⟨given, here, rearranged⟩ := carry name document found
  rw [Fields.defaulted, here]
  exact reads given rearranged

theorem Carry.optional (carry : fields.Carry written) (name : String)
    (found : written.lookup name = some document) {value : Option α}
    (reads : document.Reads (Document.orNull? read) value) :
    fields.optional name read = some value :=
  carry.defaulted name found reads none

end Fields

end DataAccess
