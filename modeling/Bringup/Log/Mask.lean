import Bringup.Text.Blank

/-!
# Credentials in messages

* `Credential.mask` : a text in which the user info of every database URI is replaced by `***:***`;
* `Credential.match?` : such a URI at the start of a text, up to the `@` after its user info.

The scheme is `mongodb://` or `mongodb+srv://`; the user info is at least one character, none of them
`/`, `@` or blank, and an `@` follows it.  The text is read from left to right and what was replaced is
not read again.
-/

namespace Bringup.Credential

/-- The schemes of database URIs. -/
def schemes : List (List Char) := ["mongodb://".toList, "mongodb+srv://".toList]

/-- A character of user info. -/
def isUserInfo (c : Char) : Bool := c != '/' && c != '@' && !isBlank c

/-- The text after a scheme at the start of a text, and the scheme. -/
def scheme? (cs : List Char) : Option (List Char × List Char) :=
  schemes.findSome? fun scheme =>
    if scheme.isPrefixOf cs then some (scheme, cs.drop scheme.length) else none

/-- The scheme and the user info of a URI at the start of a text. -/
def match? (cs : List Char) : Option (List Char × List Char) :=
  (scheme? cs).bind fun (scheme, rest) =>
    let info := rest.takeWhile isUserInfo
    if !info.isEmpty && (rest.drop info.length).head? == some '@' then some (scheme, info) else none

/-- What stands for user info, and the `@` after it. -/
def hidden : List Char := "***:***@".toList

/-- Replaces user info; the first `skip` characters have been dealt with and are left out. -/
def maskFrom : Nat → List Char → List Char
  | _, [] => []
  | skip + 1, _ :: cs => maskFrom skip cs
  | 0, c :: cs =>
    match match? (c :: cs) with
    | some (scheme, info) => scheme ++ hidden ++ maskFrom (scheme.length + info.length) cs
    | none => c :: maskFrom 0 cs

/-- A text with user info replaced. -/
def mask (cs : List Char) : List Char := maskFrom 0 cs

end Bringup.Credential
