import Bringup.Log.Console
import Bringup.Proofs.Log.Escape
import Mathlib.Data.Nat.Digits.Defs

/-!
# User info in lines of the log

* `Record.SameBesideMessage` : what masking leaves of a record; `Record.message_of_masked` says so;
* `TextFormat.leaks_line` : a line for readers leaks what its level, its logger, its message, its failure or
  its stack leaks;
* `Record.leaks_jsonLine` : a line of JSON also leaks a URI that goes on across a quote of its message
  (`RunsOn`).

A blank ends user info, and the parts of a line for readers are kept apart by blanks.  Nothing between two
fields of JSON ends it.
-/

namespace Bringup

open Credential

/-! ### What masking leaves -/

/-- Two records that differ in their messages alone. -/
structure Record.SameBesideMessage (r r' : Record) : Prop where
  get : ∀ name, name ≠ "msg" → r'.get name = r.get name
  extras : r'.extras = r.extras
  failure : r'.failure = r.failure

namespace Record

variable {r r' : Record}

/-- A text without values for it is the message. -/
theorem message_of_text {text : String} (htext : r.get "msg" = .str text)
    (hvalues : r.arguments.isGiven = false) : r.message = .ok text := by
  simp [message, htext, hvalues, Value.showable, Value.display]

/-- The message of a masked record is the masked message, and all else is as it was. -/
theorem message_of_masked (h : r.masked = .ok r') :
    ∃ text, r.message = .ok text ∧ r'.message = .ok (String.ofList (mask text.toList)) ∧
      r.SameBesideMessage r' := by
  cases hmessage : r.message with
  | error e =>
    rw [masked, hmessage] at h
    cases h
  | ok text =>
    rw [masked, hmessage] at h
    simp only [Except.map, Except.ok.injEq] at h
    refine ⟨text, rfl, ?_⟩
    split at h
    · rename_i hsame
      subst h
      rw [hsame]
      exact ⟨hmessage, fun _ _ => rfl, rfl, rfl⟩
    · subst h
      refine ⟨?_, fun name hname => get_set_of_ne hname, Assoc.filter_put_of_not (by decide), rfl⟩
      exact message_of_text (get_set_self (by decide)) rfl

end Record

/-! ### Lines for readers -/

namespace Percent

variable {total fuel : Nat} {c : Char} {cs name rest after out : List Char} {fields : Fields}
  {values : List Value} {s : Supply}

/-- The layout of a place without flags, width and precision. -/
def bare : Layout := ⟨false, false, false, false, false, 0, none⟩

/-- The layout of a place of eight columns, filled from the left. -/
def eightLeft : Layout := ⟨true, false, false, false, false, 8, none⟩

theorem bare_text (cs : List Char) : bare.text (bare.cut cs) = cs := by
  simp [bare, Layout.text, Layout.cut]

theorem eightLeft_text (cs : List Char) :
    eightLeft.text (eightLeft.cut cs) = cs ++ List.replicate (8 - cs.length) ' ' := rfl

/-- A character that is no percent sign stands for itself. -/
theorem fill_cons_eq_ok (hc : c ≠ '%') (h : fill total (fuel + 1) (c :: cs) s = .ok out) :
    ∃ out', out = c :: out' ∧ fill total fuel cs s = .ok out' := by
  have hfill : fill total (fuel + 1) (c :: cs) s = (c :: ·) <$> fill total fuel cs s := by
    rw [fill] <;> simp [hc]
  rw [hfill] at h
  cases hrest : fill total fuel cs s with
  | error fault =>
    rw [hrest] at h
    cases h
  | ok out' =>
    rw [hrest] at h
    exact ⟨out', (Except.ok.inj h).symm, rfl⟩

/-- A value that is shown as a text is shown as it is displayed. -/
theorem eq_of_place_text {l : Layout} {index : Nat} {v : Value} (h : place l 's' index v = .ok out) :
    out = l.text (l.cut v.display.toList) := by
  simp only [place, ifShowable] at h
  split at h
  · exact (Except.ok.inj h).symm
  · cases h

/-- A place that names a field shows the value of the field. -/
theorem fill_named_eq_ok (layout : Layout) (hname : readName 0 cs = some (name, rest))
    (hlayout : ∀ s, readLayout rest s = .ok (layout, 's' :: after, s))
    (h : fill total (fuel + 1) ('%' :: '(' :: cs) ⟨values, some (.doc fields), false⟩ = .ok out) :
    ∃ v out', fields.lookup (String.ofList name) = some v ∧
      out = layout.text (layout.cut v.display.toList) ++ out' ∧
      fill total fuel after ⟨[], some (.doc fields), false⟩ = .ok out' := by
  simp only [fill, Option.isNone_some, Bool.false_eq_true, if_false, hname, Supply.select] at h
  cases hv : fields.lookup (String.ofList name) with
  | none =>
    rw [hv] at h
    cases h
  | some v =>
    rw [hv] at h
    have hletter : skipSizeLetter ('s' :: after) = 's' :: after := rfl
    simp only [bind, Except.bind, pure, Except.pure, hlayout, hletter, Supply.next] at h
    split at h
    · cases h
    rename_i placed hplaced
    cases hrest : fill total fuel after ⟨[], some (.doc fields), false⟩ with
    | error fault =>
      rw [hrest] at h
      cases h
    | ok out' =>
      rw [hrest] at h
      exact ⟨v, out', rfl, by rw [← eq_of_place_text hplaced]; exact (Except.ok.inj h).symm, rfl⟩

end Percent

namespace TextFormat

variable {fields : Fields} {cs time level name message : List Char} {r : Record} {text line : String}

/-- The standard format filled in. -/
def standardText (time level name message : List Char) : List Char :=
  '[' :: time ++ [']'] ++ ' ' :: (level ++ List.replicate (8 - level.length) ' ') ++
    ' ' :: (name ++ [':']) ++ ' ' :: message

open Percent in
/-- The standard format shows four attributes. -/
theorem exists_of_format
    (h : Percent.format standard.template.toList (.single (.doc fields)) = .ok cs) :
    ∃ time level name message : Value,
      fields.lookup "asctime" = some time ∧ fields.lookup "levelname" = some level ∧
      fields.lookup "name" = some name ∧ fields.lookup "message" = some message ∧
      cs = standardText time.display.toList level.display.toList name.display.toList
        message.display.toList := by
  simp only [Percent.format, standard, String.reduceToList, Supply.ofArguments, List.length_cons,
    List.length_nil] at h
  -- the places one after the other, and the characters between them
  obtain ⟨_, h₁, h⟩ := fill_cons_eq_ok (by decide) h
  obtain ⟨time, _, htime, h₂, h⟩ := fill_named_eq_ok bare rfl (fun _ => rfl) h
  obtain ⟨_, h₃, h⟩ := fill_cons_eq_ok (by decide) h
  obtain ⟨_, h₄, h⟩ := fill_cons_eq_ok (by decide) h
  obtain ⟨level, _, hlevel, h₅, h⟩ := fill_named_eq_ok eightLeft rfl (fun _ => rfl) h
  obtain ⟨_, h₆, h⟩ := fill_cons_eq_ok (by decide) h
  obtain ⟨name, _, hname, h₇, h⟩ := fill_named_eq_ok bare rfl (fun _ => rfl) h
  obtain ⟨_, h₈, h⟩ := fill_cons_eq_ok (by decide) h
  obtain ⟨_, h₉, h⟩ := fill_cons_eq_ok (by decide) h
  obtain ⟨message, _, hmessage, h₁₀, h⟩ := fill_named_eq_ok bare rfl (fun _ => rfl) h
  obtain rfl := Except.ok.inj h
  refine ⟨time, level, name, message, htime, hlevel, hname, hmessage, ?_⟩
  subst_vars
  rw [bare_text, bare_text, bare_text, eightLeft_text]
  simp [standardText]

theorem at_notMem_toDigits (n : Nat) : '@' ∉ Nat.toDigits 10 n := fun h =>
  absurd (Nat.isDigit_of_mem_toDigits (by decide) (by decide) h) (by decide)

theorem at_notMem_zeroPadded (width n : Nat) : '@' ∉ (zeroPadded width n).toList := by
  rw [zeroPadded, String.toList_ofList, List.mem_append, not_or]
  refine ⟨fun h => ?_, at_notMem_toDigits n⟩
  cases List.eq_of_mem_replicate h

theorem at_notMem_repr (n : Int) : '@' ∉ n.repr.toList := by
  cases n with
  | ofNat n =>
    change '@' ∉ (Nat.repr n).toList
    rw [Nat.toList_repr]
    exact at_notMem_toDigits n
  | negSucc n =>
    change '@' ∉ ("-" ++ Nat.repr (n + 1)).toList
    rw [String.toList_append, Nat.toList_repr, List.mem_append, not_or]
    exact ⟨by decide, at_notMem_toDigits (n + 1)⟩

/-- Digits, a sign perhaps, hyphens, colons and a blank: the time of a line holds no `@`. -/
theorem at_notMem_timeText {r : Record} {time : String} (h : standard.timeText r = .ok time) :
    '@' ∉ time.toList := by
  obtain ⟨seconds, -, h⟩ := exists_of_bind_eq_ok h
  obtain ⟨whole, -, h⟩ := exists_of_bind_eq_ok h
  obtain rfl := Except.ok.inj h
  simp [formatTime, standard, formatTimeList, WallTime.part?, at_notMem_zeroPadded, at_notMem_repr]

/-- The first line of a record: the message stands behind time, level and logger. -/
theorem exists_of_fillTemplate {message : String} (h : standard.fillTemplate r message = .ok text) :
    ∃ time, '@' ∉ time ∧ text.toList = standardText time (r.get "levelname").display.toList
      (r.get "name").display.toList message.toList := by
  obtain ⟨attributes, hattributes, h⟩ := exists_of_bind_eq_ok h
  have htime : standard.showsTime = true := by decide
  rw [TextFormat.attributes, htime, if_pos rfl] at hattributes
  obtain ⟨time, hclock, hattributes⟩ := exists_of_bind_eq_ok hattributes
  obtain rfl := Except.ok.inj hattributes
  split at h
  · rename_i cs hformat
    obtain rfl := Except.ok.inj h
    obtain ⟨asctime, level, name, shown, hasctime, hlevel, hname, hmessage, rfl⟩ := exists_of_format hformat
    have hasctime := (Record.get_of_lookup hasctime).symm.trans (Record.get_set_self (by decide))
    have hlevel := (Record.get_of_lookup hlevel).symm.trans
      ((Record.get_set_of_ne (by decide)).trans (Record.get_set_of_ne (by decide)))
    have hname := (Record.get_of_lookup hname).symm.trans
      ((Record.get_set_of_ne (by decide)).trans (Record.get_set_of_ne (by decide)))
    have hmessage := (Record.get_of_lookup hmessage).symm.trans
      ((Record.get_set_of_ne (by decide)).trans (Record.get_set_self (by decide)))
    refine ⟨time.toList, at_notMem_timeText hclock, ?_⟩
    rw [String.toList_ofList, hasctime, hlevel, hname, hmessage]
    rfl
  · cases h
  · cases h

/-- The first line leaks what its level, the name of its logger or its message leaks: blanks stand between
them, and no time holds an `@`. -/
theorem leaks_standardText (htime : '@' ∉ time) :
    Leaks (standardText time level name message) ↔ Leaks level ∨ Leaks name ∨ Leaks message := by
  have hlevel : Leaks (level ++ List.replicate (8 - level.length) ' ') ↔ Leaks level := by
    cases 8 - level.length with
    | zero => rw [List.replicate_zero, List.append_nil]
    | succ n =>
      rw [List.replicate_succ, leaks_cut_blank (by decide)]
      refine or_iff_left (not_leaksWith_of_notMem fun h => ?_)
      cases List.eq_of_mem_replicate h
  have hclock : ¬ Leaks ('[' :: time ++ [']']) := not_leaksWith_of_notMem (by simp [htime])
  have hname : Leaks (name ++ [':']) ↔ Leaks name := leaksWith_concat (by decide)
  rw [standardText, leaks_cut_blank (by decide), leaks_cut_blank (by decide),
    leaks_cut_blank (by decide), hlevel, hname, iff_false_intro hclock, false_or, or_assoc]

theorem leaks_onNextLine {more : String} :
    Leaks (onNextLine text more).toList ↔ Leaks text.toList ∨ Leaks more.toList := by
  rw [onNextLine]
  split
  · rename_i hempty
    rw [String.isEmpty_iff.1 hempty]
    exact (or_iff_left not_leaksWith_nil).symm
  split
  · rename_i hlast
    obtain ⟨before, hbefore⟩ := List.getLast?_eq_some_iff.1 hlast
    rw [String.toList_append, hbefore, List.append_assoc, List.singleton_append,
      leaks_cut_blank (by decide), Leaks, Leaks, Leaks, leaksWith_concat (by decide)]
  · rw [String.toList_append, String.toList_append, List.append_assoc]
    exact leaks_cut_blank (by decide)

/-- A line for readers leaks what a part of it leaks. -/
theorem leaks_line {message : String} (hmessage : r.message = .ok message)
    (h : standard.line r = .ok line) :
    Leaks line.toList ↔ Leaks (r.get "levelname").display.toList ∨ Leaks (r.get "name").display.toList ∨
      Leaks message.toList ∨ Leaks (failureText r).toList ∨ Leaks (stackText r).toList := by
  obtain ⟨message', hmessage', h⟩ := exists_of_bind_eq_ok h
  obtain rfl := Except.ok.inj (hmessage.symm.trans hmessage')
  obtain ⟨text, htext, h⟩ := exists_of_bind_eq_ok h
  obtain rfl := Except.ok.inj h
  obtain ⟨time, htime, htoList⟩ := exists_of_fillTemplate htext
  rw [leaks_onNextLine, leaks_onNextLine, htoList, leaks_standardText htime]
  simp only [or_assoc]

end TextFormat

/-! ### Lines of JSON -/

namespace Json

/-- Fields before others, each with the comma after it. -/
def leadingFields (fields : Fields) : List Char :=
  fields.flatMap fun (k, v) => text k ++ ':' :: chars v ++ [',']

/-- What follows a field: other fields, or the brace that closes the document. -/
def trailingFields : Fields → List Char
  | [] => ['}']
  | field :: fields => ',' :: fieldChars (field :: fields)

theorem fieldChars_cons (k : String) (v : Value) (fields : Fields) :
    fieldChars ((k, v) :: fields) = text k ++ ':' :: chars v ++ trailingFields fields := by
  cases fields with
  | nil => rfl
  | cons field fields => simp [fieldChars, trailingFields]

theorem fieldChars_append (fields rest : Fields) (field : String × Value) :
    fieldChars (fields ++ field :: rest) = leadingFields fields ++ fieldChars (field :: rest) := by
  induction fields with
  | nil => rfl
  | cons pair fields ih =>
    obtain ⟨k, v⟩ := pair
    have hmore : trailingFields (fields ++ field :: rest) = ',' :: fieldChars (fields ++ field :: rest) := by
      cases fields <;> rfl
    rw [List.cons_append, fieldChars_cons, hmore, ih]
    simp [leadingFields]

end Json

/-- A URI that begins in one text goes on in another one, with a quote between them. -/
def RunsOn (x y : List Char) : Prop := ∃ s t, Bare isUserInfo (s ++ '"' :: t) ∧ s <:+ x ∧ t <+: y

namespace Record

variable {r : Record} {source : Bool} {line message : String}

/-- What a line of JSON has before its message: time, level and logger. -/
def jsonBefore (r : Record) (time : String) : List Char :=
  '{' :: Json.leadingFields
    [("timestamp", .str time), ("level", r.get "levelname"), ("logger", r.get "name")] ++
    Json.text "message" ++ [':']

/-- What a line of JSON has behind its message. -/
def jsonAfter (source : Bool) (r : Record) : List Char :=
  Json.trailingFields ((if source then r.sourceFields else []) ++ r.exceptionFields ++ r.extraFields)

/-- A message as it stands between quotes. -/
def shownMessage (message : String) : List Char := message.toList.flatMap Json.escapeChar

theorem exists_of_jsonLine (hmessage : r.message = .ok message) (h : r.jsonLine source = .ok line) :
    ∃ time, r.timeText = .ok time ∧
      line.toList = r.jsonBefore time ++ '"' :: (shownMessage message ++ '"' :: r.jsonAfter source) := by
  obtain ⟨fields, hfields, h⟩ := exists_of_bind_eq_ok h
  have hline := (Json.write_eq_ok_iff.1 h).2
  obtain ⟨time, htime, hfields⟩ := exists_of_bind_eq_ok hfields
  obtain ⟨message', hmessage', hfields⟩ := exists_of_bind_eq_ok hfields
  obtain rfl := Except.ok.inj (hmessage.symm.trans hmessage')
  obtain rfl := Except.ok.inj hfields
  refine ⟨time, htime, ?_⟩
  have hmoved : ∀ a b c message : String × Value, ∀ sources exceptions extras : Fields,
      [a, b, c, message] ++ sources ++ exceptions ++ extras =
        [a, b, c] ++ message :: (sources ++ exceptions ++ extras) := by simp
  rw [hline, hmoved, Json.chars, Json.fieldChars_append, Json.fieldChars_cons, Json.chars,
    Json.text.eq_def message]
  simp [jsonBefore, jsonAfter, shownMessage]

/-- A line of JSON leaks what its message or what stands around it leaks, or what goes on across the quotes
of the message. -/
theorem leaks_jsonLine (hmessage : r.message = .ok message) (h : r.jsonLine source = .ok line) :
    ∃ time, r.timeText = .ok time ∧ (Leaks line.toList ↔
      Leaks (r.jsonBefore time) ∨ Leaks (shownMessage message) ∨ Leaks (r.jsonAfter source) ∨
      RunsOn (shownMessage message) (r.jsonAfter source) ∨
      RunsOn (r.jsonBefore time) (shownMessage message ++ '"' :: r.jsonAfter source)) := by
  obtain ⟨time, htime, hline⟩ := exists_of_jsonLine hmessage h
  refine ⟨time, htime, ?_⟩
  rw [hline, Leaks, leaksWith_cut, leaksWith_cut]
  simp only [Leaks, RunsOn, or_assoc]

end Record

end Bringup
