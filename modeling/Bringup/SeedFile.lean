import Bringup.Folder
import Bringup.Json.Reader
import Bringup.Spec.Seed
import Bringup.Text.Utf8

/-!
# Seed files

* `SeedFile.read` : the specification in a file of JSON, from its bytes or the reason why there are none.

A file that cannot be opened and a text that is no JSON are failures of the step in which specifications
are read.  Bytes that are no UTF-8 and numbers beyond the limit of digits are failures of their own.
-/

namespace Bringup

namespace Utf8Error

/-- Why the bytes are no character. -/
def reason : Utf8Fault → String
  | .badStart => "invalid start byte"
  | .badContinuation => "invalid continuation byte"
  | .cutShort => "unexpected end of data"

/-- What is said of bytes that are no character. -/
def message (e : Utf8Error) : String :=
  let place :=
    if e.stop = e.first + 1 then
      "byte 0x" ++ String.ofList (hexText 2 e.lead.toNat) ++ s!" in position {e.first}"
    else s!"bytes in position {e.first}-{e.stop - 1}"
  "'utf-8' codec can't decode " ++ place ++ ": " ++ reason e.fault

end Utf8Error

namespace SeedFile

/-- The failure of a file for which there is another failure. -/
def unreadable (path : String) (cause : Failure) : Failure :=
  .provision .validation s!"Cannot read seed file {path}: {cause.text}" (some SeedSpec.loadStep)
    (some cause)

/-- The failure of a file that cannot be opened. -/
def openFailure (path : String) (fault : FileFault) : Failure :=
  let kind : RuntimeKind :=
    match fault with
    | .missing => .notFound
    | .isFolder => .isDirectory
    | .notAFolder => .notDirectory
  unreadable path (.ofRuntime kind (fault.message path))

/-- The value that a text of JSON spells. -/
def parse (path : String) (cs : List Char) : Except Failure Value :=
  match Json.read cs with
  | .ok v => .ok v
  | .error (.malformed kind rest) =>
    .error (unreadable path (.ofRuntime .badJson ((Json.Fault.malformed kind rest).message cs)))
  | .error (.tooManyDigits count) => .error (.ofRuntime .value (tooManyDigitsText count))

/-- The specification in a file. -/
def read (path : String) (content : Except FileFault (List UInt8)) : Except Failure SeedSpec :=
  if path.toList.contains '\x00' then .error (.ofRuntime .value "embedded null byte")
  else
    match content with
    | .error fault => .error (openFailure path fault)
    | .ok bytes =>
      match decodeUtf8 bytes with
      | .error e => .error (.ofRuntime .badEncoding e.message)
      | .ok cs => (parse path (normalizeNewlines cs)).bind SeedSpec.load

end SeedFile

end Bringup
