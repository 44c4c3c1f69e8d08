import Bringup.Proofs.Json.LineEnds
import Bringup.Proofs.Text.Utf8
import Bringup.SeedFile

/-!
# What reading a seed file comes to

A file gives the specification that the value of its text spells (`Holds`), or it is refused: a failure of
the step in which specifications are read, with what stands behind it (`Refused`).  Three things are not
turned into a refusal: a path that no file can have, bytes that are no text, and a whole number with too
many digits (`Escapes`).  `read_outcome` says which of these it is, and that there is nothing else.
-/

namespace Bringup

namespace SeedFile

/-- The class of the failure of a file that cannot be opened. -/
def faultKind : FileFault → RuntimeKind
  | .missing => .notFound
  | .isFolder => .isDirectory
  | .notAFolder => .notDirectory

/-- What is said of a file for which there is another failure. -/
def unreadableText (path : String) (cause : Failure) : String :=
  s!"Cannot read seed file {path}: {cause.text}"

/-- The file holds the text of a value that spells the specification. -/
def Holds (content : Except FileFault (List UInt8)) (spec : SeedSpec) : Prop :=
  ∃ (cs : List Char) (v : Value), content = .ok (cs.flatMap String.utf8EncodeChar) ∧
    Json.read cs = .ok v ∧ SeedSpec.load v = .ok spec

/-- The message and the cause of a refusal: the file cannot be opened, its text with line feeds for line ends
is no JSON from some place on, or its value is no specification. -/
inductive Refused (path : String) : Except FileFault (List UInt8) → String → Failure → Prop where
  | closed {fault : FileFault} {cause : Failure} :
      cause = .ofRuntime (faultKind fault) (fault.message path) →
      Refused path (.error fault) (unreadableText path cause) cause
  | noJson {cs place : List Char} {kind : Json.FaultKind} {cause : Failure} :
      Json.read (normalizeNewlines cs) = .error (.malformed kind place) →
      place <:+ normalizeNewlines cs →
      cause = .ofRuntime .badJson ((Json.Fault.malformed kind place).message (normalizeNewlines cs)) →
      Refused path (.ok (cs.flatMap String.utf8EncodeChar)) (unreadableText path cause) cause
  | noSpec {cs : List Char} {v : Value} {c : Complaint} :
      Json.read cs = .ok v → (SeedSpec.check v).toExcept "SeedSpec" = .error c →
      Refused path (.ok (cs.flatMap String.utf8EncodeChar))
        ("Invalid seed specification: " ++ c.headline) (.invalid c)

/-- The failures that are not turned into a refusal, where the path is one that a file can have. -/
inductive Escapes : Except FileFault (List UInt8) → Failure → Prop where
  | noText {bytes : List UInt8} {e : Utf8Error} :
      (∀ cs : List Char, cs.flatMap String.utf8EncodeChar ≠ bytes) → decodeUtf8 bytes = .error e →
      Escapes (.ok bytes) (.ofRuntime .badEncoding e.message)
  | longNumber {cs : List Char} {count : Nat} :
      Json.HasLongNumber cs count → Json.read (normalizeNewlines cs) = .error (.tooManyDigits count) →
      Escapes (.ok (cs.flatMap String.utf8EncodeChar)) (.ofRuntime .value (tooManyDigitsText count))

/-- A refusal or a failure that escapes. -/
def Fails (path : String) (content : Except FileFault (List UInt8)) (failure : Failure) : Prop :=
  Escapes content failure ∨ ∃ message cause, Refused path content message cause ∧
    failure = .provision .validation message (some SeedSpec.loadStep) (some cause)

variable {path : String} {content : Except FileFault (List UInt8)} {cs : List Char} {v : Value}
  {failure : Failure}

/-! ### The stages -/

theorem openFailure_eq (path : String) (fault : FileFault) :
    openFailure path fault = unreadable path (.ofRuntime (faultKind fault) (fault.message path)) := by
  cases fault <;> rfl

theorem load_eq_error_iff :
    SeedSpec.load v = .error failure ↔
      ∃ c, (SeedSpec.check v).toExcept "SeedSpec" = .error c ∧
        failure = .provision .validation ("Invalid seed specification: " ++ c.headline)
          (some SeedSpec.loadStep) (some (.invalid c)) := by
  unfold SeedSpec.load
  cases (SeedSpec.check v).toExcept "SeedSpec" with
  | ok spec => simp
  | error c => simp [eq_comm]

section
variable (hpath : '\x00' ∉ path.toList)
include hpath

theorem read_closed (fault : FileFault) :
    read path (.error fault) =
      .error (unreadable path (.ofRuntime (faultKind fault) (fault.message path))) := by
  rw [read, if_neg (by simpa using hpath), openFailure_eq]

theorem read_noText {bytes : List UInt8} {e : Utf8Error} (h : decodeUtf8 bytes = .error e) :
    read path (.ok bytes) = .error (.ofRuntime .badEncoding e.message) := by
  rw [read, if_neg (by simpa using hpath), h]

theorem read_text (cs : List Char) :
    read path (.ok (cs.flatMap String.utf8EncodeChar)) =
      (parse path (normalizeNewlines cs)).bind SeedSpec.load := by
  rw [read, if_neg (by simpa using hpath), decodeUtf8_eq_ok_iff.2 rfl]

theorem read_value (h : Json.read cs = .ok v) :
    read path (.ok (cs.flatMap String.utf8EncodeChar)) = SeedSpec.load v := by
  rw [read_text hpath, parse, Json.read_normalizeNewlines.2 h]
  rfl

theorem read_noJson {kind : Json.FaultKind} {place : List Char}
    (h : Json.read (normalizeNewlines cs) = .error (.malformed kind place)) :
    read path (.ok (cs.flatMap String.utf8EncodeChar)) =
      .error (unreadable path (.ofRuntime .badJson
        ((Json.Fault.malformed kind place).message (normalizeNewlines cs)))) := by
  rw [read_text hpath, parse, h]
  rfl

theorem read_longNumber {count : Nat}
    (h : Json.read (normalizeNewlines cs) = .error (.tooManyDigits count)) :
    read path (.ok (cs.flatMap String.utf8EncodeChar)) =
      .error (.ofRuntime .value (tooManyDigitsText count)) := by
  rw [read_text hpath, parse, h]
  rfl

/-! ### The outcome -/

theorem read_cases (content : Except FileFault (List UInt8)) :
    (∃ spec, read path content = .ok spec ∧ Holds content spec) ∨
      ∃ failure, read path content = .error failure ∧ Fails path content failure := by
  cases content with
  | error fault => exact .inr ⟨_, read_closed hpath fault, .inr ⟨_, _, .closed rfl, rfl⟩⟩
  | ok bytes =>
    cases hdecode : decodeUtf8 bytes with
    | error e =>
      have hnone : ∀ cs : List Char, cs.flatMap String.utf8EncodeChar ≠ bytes := by
        intro cs hcs
        rw [decodeUtf8_eq_ok_iff.2 hcs] at hdecode
        cases hdecode
      exact .inr ⟨_, read_noText hpath hdecode, .inl (.noText hnone hdecode)⟩
    | ok cs =>
      obtain rfl := decodeUtf8_eq_ok_iff.1 hdecode
      cases hread : Json.read (normalizeNewlines cs) with
      | ok v =>
        have hread := Json.read_normalizeNewlines.1 hread
        rw [read_value hpath hread]
        cases hload : SeedSpec.load v with
        | ok spec => exact .inl ⟨spec, rfl, cs, v, rfl, hread, hload⟩
        | error failure =>
          obtain ⟨c, hc, rfl⟩ := load_eq_error_iff.1 hload
          exact .inr ⟨_, rfl, .inr ⟨_, _, .noSpec hread hc, rfl⟩⟩
      | error e =>
        have hshows := Json.read_showsIn hread
        cases e with
        | malformed kind place =>
          exact .inr ⟨_, read_noJson hpath hread, .inr ⟨_, _, .noJson hread hshows rfl, rfl⟩⟩
        | tooManyDigits count =>
          exact .inr ⟨_, read_longNumber hpath hread, .inl (.longNumber hshows.of_normalize hread)⟩

theorem read_of_holds {spec : SeedSpec} (h : Holds content spec) : read path content = .ok spec := by
  obtain ⟨cs, v, rfl, hread, hload⟩ := h
  rw [read_value hpath hread, hload]

theorem read_of_fails (h : Fails path content failure) : read path content = .error failure := by
  rcases h with hescapes | ⟨message, cause, hrefused, rfl⟩
  · cases hescapes with
    | noText _ hdecode => exact read_noText hpath hdecode
    | longNumber _ hread => exact read_longNumber hpath hread
  · cases hrefused with
    | closed hcause =>
      subst hcause
      exact read_closed hpath _
    | noJson hread _ hcause =>
      subst hcause
      exact read_noJson hpath hread
    | noSpec hread hc => rw [read_value hpath hread, load_eq_error_iff.2 ⟨_, hc, rfl⟩]

end

/-- **Reading a seed file.**  A path with a null character is refused by the system, whatever is there.
For any other path, reading gives the specification that the file holds; or a failure of the step in which
specifications are read, with what stands behind it; or one of the failures that escape. -/
theorem read_outcome (path : String) (content : Except FileFault (List UInt8)) :
    if '\x00' ∈ path.toList then
      read path content = .error (.ofRuntime .value "embedded null byte")
    else
      (∀ spec, read path content = .ok spec ↔ Holds content spec) ∧
      ∀ failure, read path content = .error failure ↔
        Escapes content failure ∨ ∃ message cause, Refused path content message cause ∧
          failure = .provision .validation message (some SeedSpec.loadStep) (some cause) := by
  split
  · rename_i hnull
    exact if_pos (List.contains_iff_mem.2 hnull)
  · rename_i hpath
    refine ⟨fun spec => ⟨fun h => ?_, read_of_holds hpath⟩,
      fun failure => ⟨fun h => ?_, read_of_fails hpath⟩⟩
    · rcases read_cases hpath content with ⟨spec', hread, hholds⟩ | ⟨failure, hread, -⟩
      · obtain rfl := Except.ok.inj (h.symm.trans hread)
        exact hholds
      · cases h.symm.trans hread
    · rcases read_cases hpath content with ⟨spec, hread, -⟩ | ⟨failure', hread, hfails⟩
      · cases h.symm.trans hread
      · obtain rfl := Except.error.inj (h.symm.trans hread)
        exact hfails

/-- Bytes that are no text are refused in no step: the byte 0xFF begins no character. -/
theorem read_not_refused :
    ¬ ∀ (path : String) (content : Except FileFault (List UInt8)),
      (∃ spec, read path content = .ok spec ∧ Holds content spec) ∨
        ∃ message cause, read path content =
          .error (.provision .validation message (some SeedSpec.loadStep) (some cause)) := by
  intro h
  have hread : read "seed.json" (.ok [0xFF]) = .error (.ofRuntime .badEncoding
      "'utf-8' codec can't decode byte 0xff in position 0: invalid start byte") := by
    rfl
  rcases h "seed.json" (.ok [0xFF]) with ⟨spec, hspec, -⟩ | ⟨message, cause, hrefused⟩
  · rw [hread] at hspec
    cases hspec
  · rw [hread] at hrefused
    cases Except.error.inj hrefused

end SeedFile

end Bringup
